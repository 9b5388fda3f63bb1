import WebStyle.Proofs.ObjectModel.Deallocation
import WebStyle.Proofs.ObjectModel.Placement
/-!
What requests that are refused leave, whatever sheets imports were given. Most requests ask all that
they may be refused for before they change anything. The others look up once more what they are
about, and are refused late where it was freed on the way: nothing else is changed by a refused
request, and this takes a sheet or rule that owns itself.
-/
set_option autoImplicit false

namespace WebStyle

namespace ModelM

variable {α β : Type}

/-- Whether a request changes nothing, whatever it answers. -/
def Reads (f : ModelM α) : Prop := ∀ m, (f.exec m).2 = m

/-- Whether a request is never refused. -/
def Succeeds (f : ModelM α) : Prop := ∀ m e, (f.exec m).1 ≠ .error e

/-- Whether a request changes nothing where it is refused. -/
def IsAtomic (f : ModelM α) : Prop := ∀ m e, (f.exec m).1 = .error e → (f.exec m).2 = m

theorem Reads.isAtomic {f : ModelM α} (h : f.Reads) : f.IsAtomic := fun m _ _ => h m

theorem Succeeds.isAtomic {f : ModelM α} (h : f.Succeeds) : f.IsAtomic :=
  fun m e he => absurd he (h m e)

theorem reads_throw (e : ModelError) : (throw e : ModelM α).Reads := fun _ => rfl

theorem reads_ask (f : ObjectModel → Except ModelError α) : (ask f).Reads := fun _ => by
  rw [exec_ask]

theorem reads_get : (get : ModelM ObjectModel).Reads := fun _ => rfl

theorem reads_readRule (text : String) : (readRule text).Reads := fun m => by
  obtain ⟨x, hx⟩ := exec_readRule text (m := m)
  rw [hx]

theorem succeeds_pure (a : α) : (pure a : ModelM α).Succeeds := fun _ _ => by simp

theorem succeeds_modify (f : ObjectModel → ObjectModel) : (modify f : ModelM PUnit).Succeeds :=
  fun _ _ => by simp

theorem succeeds_update (f : ObjectModel → ObjectModel × α) : (update f).Succeeds :=
  fun _ _ => by simp

theorem succeeds_noteChanged (x : Option SheetId) : (noteChanged x).Succeeds :=
  succeeds_modify _

theorem Succeeds.bind {f : ModelM α} {g : α → ModelM β} (hf : f.Succeeds)
    (hg : ∀ a, (g a).Succeeds) : (f >>= g).Succeeds := by
  intro m e
  rw [exec_bind]
  have hno := hf m
  generalize f.exec m = result at *
  obtain ⟨error | a, m'⟩ := result
  · exact absurd rfl (hno error)
  · exact hg a m' e

/-- A change that is noted. -/
theorem succeeds_change (f : ObjectModel → ObjectModel) (x : Option SheetId) (a : α) :
    (do modify f; noteChanged x; pure a : ModelM α).Succeeds :=
  (succeeds_modify f).bind fun _ => (succeeds_noteChanged x).bind fun _ => succeeds_pure a

/-- What is asked first changes nothing. -/
theorem Reads.bind {f : ModelM α} {g : α → ModelM β} (hf : f.Reads) (hg : ∀ a, (g a).IsAtomic) :
    (f >>= g).IsAtomic := by
  intro m e he
  rw [exec_bind] at he ⊢
  have hsame := hf m
  generalize f.exec m = result at *
  obtain ⟨error | a, m'⟩ := result
  · exact hsame
  · obtain rfl : m' = m := hsame
    exact hg a m' e he

/-! ### Requests that ask first -/

theorem isAtomic_setOwner (s : SheetId) (node : Option NodeId) (title : Option String) :
    (setOwner s node title).IsAtomic :=
  (reads_ask _).bind fun _ => (succeeds_modify _).isAtomic

theorem isAtomic_setDisabled (s : SheetId) (disabled : Bool) :
    (setDisabled s disabled).IsAtomic := by
  refine (reads_ask _).bind fun sheet => Succeeds.isAtomic ?_
  split
  · exact (succeeds_modify _).bind fun _ => succeeds_noteChanged _
  · exact succeeds_pure _

theorem isAtomic_removeSheet (s : SheetId) : (removeSheet s).IsAtomic :=
  (reads_ask _).bind fun _ => (succeeds_modify _).isAtomic

theorem isAtomic_insertRule (c : RuleContainer) (text : String) (index : Nat) :
    (insertRule c text index).IsAtomic := by
  intro m e he
  rcases exec_insertRule c text index (m := m) with ⟨e', hrefused⟩ | ⟨list, source, x, -, -, hdone⟩
  · rw [hrefused]
  · simp [hdone] at he

theorem isAtomic_setSelectorText (r : RuleId) (text : String) :
    (setSelectorText r text).IsAtomic := by
  refine (reads_ask _).bind fun rule => ?_
  split
  · split
    · exact (succeeds_pure _).isAtomic
    · exact (succeeds_change _ _ _).isAtomic
  · exact (reads_throw _).isAtomic

theorem isAtomic_updateBlock (r : RuleId) (f : DeclarationBlock → DeclarationBlock × α) :
    (updateBlock r f).IsAtomic :=
  (reads_ask _).bind fun _ => (reads_ask _).bind fun _ => (succeeds_change _ _ _).isAtomic

theorem isAtomic_updateMedia (o : MediaOwner) (f : MediaList → MediaList × α) :
    (updateMedia o f).IsAtomic := by
  refine (reads_ask _).bind fun l => ?_
  cases o with
  | sheet s => exact (succeeds_change _ _ _).isAtomic
  | rule r => exact (reads_ask _).bind fun rule => (succeeds_change _ _ _).isAtomic

end ModelM

namespace ObjectModel

variable {α : Type} {m m' : ObjectModel} {lost : Prop} {ps : List ModelPart} {s : SheetId}
  {r : RuleId} {compatibility : Compatibility}

/-! ### Requests that look up again -/

/-- Whether a request changes nothing where it is refused, unless it lost what it is about, for which
it is refused always. -/
structure AtomicUnless (m : ObjectModel) (lost : Prop)
    (result : Except ModelError α × ObjectModel) : Prop where
  unchanged : ∀ e, result.1 = .error e → result.2 = m ∨ e = .stale ∧ lost
  refused : lost → ∃ e, result.1 = .error e

namespace AtomicUnless

theorem early (e : ModelError) :
    m.AtomicUnless lost ((.error e, m) : Except ModelError α × ObjectModel) :=
  ⟨fun _ _ => .inl rfl, fun _ => ⟨e, rfl⟩⟩

theorem late {b : Bool} {done : ObjectModel} (a : α) (h : b = true ↔ ¬ lost) :
    m.AtomicUnless lost (if b then (.ok a, done) else (.error .stale, m')) := by
  cases b with
  | true => exact ⟨by simp, fun hlost => absurd hlost (h.1 rfl)⟩
  | false =>
    have hlost : lost := by simpa using h
    exact ⟨fun e he => .inr ⟨by simpa using he.symm, hlost⟩, fun _ => ⟨_, rfl⟩⟩

theorem of_isAtomic {f : ModelM α} (h : f.IsAtomic) : m.AtomicUnless False (f.exec m) :=
  ⟨fun e he => .inl (h m e he), False.elim⟩

end AtomicUnless

/-- A sheet is freed with its rules if it owns itself through them. -/
theorem isSome_sheet?_withoutRules {sheet : StyleSheet} (hs : m.sheet? s = some sheet) :
    ((m.withoutRules s sheet).sheet? s).isSome ↔
      ¬ m.Reaches (m.ownedBy (.sheet s)) (.sheet s) := by
  have hother : ∀ q, q ≠ .sheet s → (m.modifySheet s fun sheet =>
      { sheet with rules := [], deleted := [] }).ownedBy q = m.ownedBy q := by
    intro q hq
    rw [ownedBy_modifySheet hs, if_neg hq]
  have hlive : (m.modifySheet s fun sheet => { sheet with rules := [], deleted := [] }).IsLive
      (.sheet s) := by
    simp [IsLive, sheet?_modifySheet, hs]
  have howned : m.ownedBy (.sheet s) = sheet.owned := by simp [ownedBy, hs]
  rw [howned, ← reaches_iff_of_others hother]
  exact (frees_free _ sheet.owned).isLive_iff hlive

theorem atomicUnless_replaceRules (m : ObjectModel) (s : SheetId) (text : String) :
    m.AtomicUnless (m.Reaches (m.ownedBy (.sheet s)) (.sheet s))
      ((ModelM.replaceRules s text).exec m) := by
  cases hs : m.sheet? s with
  | none =>
    rw [ModelM.exec_replaceRules_of_none hs]
    exact .early _
  | some sheet =>
    rw [ModelM.exec_replaceRules_of_some hs rfl]
    refine .late () ?_
    rw [sheet?, sheets_adoptAll]
    exact isSome_sheet?_withoutRules hs

/-- A rule that is deleted from a sheet that is gone has nothing to keep it. -/
theorem atomicUnless_deleteRule (m : ObjectModel) (c : RuleContainer) (index : Nat) :
    m.AtomicUnless (∃ s, m.ownerSheet c = .ok (some s) ∧ m.sheet? s = none)
      ((ModelM.deleteRule c index).exec m) := by
  rcases ModelM.exec_deleteRule c index with ⟨e, he⟩ | ⟨list, x, r, -, hx, -, he⟩
  · rw [he]
    exact .early e
  · rw [he]
    cases x with
    | none => exact ⟨by simp, by simp [hx]⟩
    | some s =>
      refine .late () ?_
      have ho := (m.modifyRules (·.eraseIdx index) c).orphans_orphan r
      rw [ho.sheet?_eq, sheet?_modifyRules_isSome]
      simp [hx, ← Option.isSome_iff_ne_none]

/-- A rule is freed with what it holds if it owns itself through that. -/
theorem isSome_rule?_emptied {rule : Rule} (hr : m.rule? r = some rule) :
    ((m.emptied r rule).rule? r).isSome ↔ ¬ m.Reaches (m.ownedBy (.rule r)) (.rule r) := by
  have hother : ∀ q, q ≠ .rule r → (m.setContent r .placeholder).ownedBy q = m.ownedBy q := by
    intro q hq
    rw [ObjectModel.setContent, ownedBy_modifyRule hr, if_neg hq]
  have hlive : (m.setContent r .placeholder).IsLive (.rule r) := by
    simp [IsLive, rule?_setContent, hr]
  have howned : m.ownedBy (.rule r) = rule.content.owned := by simp [ownedBy, hr]
  rw [howned, ← reaches_iff_of_others hother]
  exact (frees_free _ rule.content.owned).isLive_iff hlive

/-- A rule that was freed does not come back with the new ones, also where one takes its slot. -/
theorem Placed.isSome_rule?_build (h : m.Placed) {rule : Rule} (hr : m.rule? r = some rule)
    (x : Option SheetId) (source : RuleSource) :
    (((m.emptied r rule).build x r source).1.rule? r).isSome ↔
      ((m.emptied r rule).rule? r).isSome := by
  have hst := stocks_build (h.emptied hr) x r source
  refine ⟨fun hlive => ?_, fun hlive => hst.isSome hlive⟩
  by_contra hdead
  have hr₀ : (m.setContent r .placeholder).rule? r = some { rule with content := .placeholder } := by
    rw [rule?_setContent, if_pos rfl, hr]
    rfl
  have hfreed : (m.emptied r rule).rule? r = none := by simpa using hdead
  have hvacated : (m.emptied r rule).rules.Vacated r := vacated_of_freed hr₀ hfreed
  have hgone := (retired_build x r source hvacated.retired).get?_eq_none
  simp [rule?, hgone] at hlive

theorem Placed.atomicUnless_setRuleText (h : m.Placed) (r : RuleId) (text : String) :
    m.AtomicUnless (m.Reaches (m.ownedBy (.rule r)) (.rule r))
      ((ModelM.setRuleText r text).exec m) := by
  rcases ModelM.exec_setRuleText text (m := m) (r := r) with
    ⟨e, he⟩ | ⟨rule, source, m₂, content, hr, -, hb, he⟩
  · rw [he]
    exact .early e
  · have hbuild : (m.emptied r rule).build rule.parentSheet r source = (m₂, content) := hb
    have hlive := h.isSome_rule?_build hr rule.parentSheet source
    rw [hbuild] at hlive
    rw [he]
    exact .late () (hlive.trans (isSome_rule?_emptied hr))

/-! ### Imports -/

/-- Whether an import that gets a sheet has one already that leads to the new one, or back to the
import, so that the new one is freed with the old one. -/
def ReplacesOwner (m : ObjectModel) (r : RuleId) (s : SheetId) : Prop :=
  ∃ rule href media old, m.rule? r = some rule ∧ rule.content = .importing href media (some old) ∧
    old ≠ s ∧ (m.Reaches [.sheet old] (.sheet s) ∨ m.Reaches [.sheet old] (.rule r))

/-- Where an import has a new sheet, ways lead there by the import, or did before. -/
theorem reaches_setContent {rule : Rule} {href : String} {media : MediaList}
    (hr : m.rule? r = some rule) :
    (m.setContent r (.importing href media (some s))).Reaches ps (.sheet s) ↔
      m.Reaches ps (.sheet s) ∨ m.Reaches ps (.rule r) := by
  have howned : ∀ q, (m.setContent r (.importing href media (some s))).ownedBy q =
      if q = .rule r then [.sheet s] else m.ownedBy q := fun q => ownedBy_modifyRule hr
  have hother : ∀ q, q ≠ .rule r →
      (m.setContent r (.importing href media (some s))).ownedBy q = m.ownedBy q :=
    fun q hq => by rw [howned, if_neg hq]
  have hstep : m.Reaches ps (.rule r) →
      (m.setContent r (.importing href media (some s))).Reaches ps (.sheet s) := by
    intro h
    obtain ⟨a, ha, hpath⟩ := (reaches_iff_of_others hother).2 h
    exact ⟨a, ha, hpath.tail (by simp [howned])⟩
  constructor
  · exact reaches_or_of_others fun q hq => (hother q hq).symm
  · rintro (h | h)
    · rcases reaches_or_of_others hother h with h | h
      · exact h
      · exact hstep ((reaches_iff_of_others hother).1 h)
    · exact hstep h

theorem atomicUnless_attachImport (m : ObjectModel) (r : RuleId) (s : SheetId) :
    m.AtomicUnless (m.ReplacesOwner r s) ((ModelM.attachImport r s).exec m) := by
  rcases ModelM.exec_attachImport (m := m) (r := r) (s := s) with
    ⟨e, he⟩ | ⟨sheet, rule, href, media, old, m₂, hsheet, hr, hc, rfl, he⟩
  · rw [he]
    exact .early e
  · have hlive : (m.setContent r (.importing href media (some s))).IsLive (.sheet s) := by
      simp [IsLive, hsheet]
    rw [he]
    refine .late () (((frees_free _ _).isLive_iff hlive).trans (not_congr ?_))
    rw [reaches_setContent hr]
    constructor
    · intro h
      cases old with
      | none => simp [Reaches] at h
      | some old =>
        by_cases hold : old = s
        · simp [hold, Reaches] at h
        · have hold' : (some old).filter (· != s) = some old := by simp [hold]
          rw [hold'] at h
          exact ⟨rule, href, media, old, hr, hc, hold, h⟩
    · rintro ⟨rule', href', media', old', hr', hc', hold, h⟩
      obtain rfl := Option.some.inj (hr.symm.trans hr')
      obtain ⟨-, -, rfl⟩ := RuleContent.importing.inj (hc.symm.trans hc')
      have hold' : (some old').filter (· != s) = some old' := by simp [hold]
      rw [hold']
      exact h

/-! ### Runs -/

/-- Whether an edit frees what it is about before it looks it up again, or is about a rule of a sheet
that is gone. -/
def Edit.LosesTarget (m : ObjectModel) : Edit → Prop
  | .replaceRules s _ => m.Reaches (m.ownedBy (.sheet s)) (.sheet s)
  | .deleteRule c _ => ∃ s, m.ownerSheet c = .ok (some s) ∧ m.sheet? s = none
  | .setRuleText r _ => m.Reaches (m.ownedBy (.rule r)) (.rule r)
  | _ => False

theorem AtomicUnless.of_refusal {f : ModelM α} (h : m.AtomicUnless lost (f.exec m)) :
    (∀ error, m.refusal? f = some error → (f.exec m).2 = m ∨ error = .stale ∧ lost) ∧
      (lost → (m.refusal? f).isSome) := by
  have hrefusal : ∀ e, m.refusal? f = some e ↔ (f.exec m).1 = .error e := by
    intro e
    rw [refusal?]
    split <;> simp_all
  refine ⟨fun e he => h.unchanged e ((hrefusal e).1 he), fun hlost => ?_⟩
  obtain ⟨e, he⟩ := h.refused hlost
  exact Option.isSome_iff_exists.2 ⟨e, (hrefusal e).2 he⟩

theorem Placed.atomicUnless_edit (h : m.Placed) (e : Edit) :
    (∀ error, e.refusal? m = some error → e.apply m = m ∨ error = .stale ∧ e.LosesTarget m) ∧
      (e.LosesTarget m → (e.refusal? m).isSome) := by
  have first : ∀ {β : Type} {f : ModelM β}, f.IsAtomic →
      (∀ error, m.refusal? f = some error → (f.exec m).2 = m ∨ error = .stale ∧ False) ∧
        (False → (m.refusal? f).isSome) :=
    fun hf => (AtomicUnless.of_isAtomic hf).of_refusal
  cases e with
  | createSheet href media origin => exact first (ModelM.succeeds_update _).isAtomic
  | setOwner s node title => exact first (ModelM.isAtomic_setOwner s node title)
  | setDisabled s disabled => exact first (ModelM.isAtomic_setDisabled s disabled)
  | replaceRules s text => exact (atomicUnless_replaceRules m s text).of_refusal
  | removeSheet s => exact first (ModelM.isAtomic_removeSheet s)
  | insertRule c text index => exact first (ModelM.isAtomic_insertRule c text index)
  | deleteRule c index => exact (atomicUnless_deleteRule m c index).of_refusal
  | setRuleText r text => exact (h.atomicUnless_setRuleText r text).of_refusal
  | setSelectorText r text => exact first (ModelM.isAtomic_setSelectorText r text)
  | updateBlock r f => exact first (ModelM.isAtomic_updateBlock r _)
  | updateMedia o f => exact first (ModelM.isAtomic_updateMedia o _)

/-- Whatever sheets imports were given, what is refused changes nothing unless it loses what it is
about; and that is refused always. -/
theorem Reachable.unchanged_or_losesTarget (h : Reachable compatibility m) :
    (∀ e : Edit, (∀ error, e.refusal? m = some error →
        e.apply m = m ∨ error = .stale ∧ e.LosesTarget m) ∧
      (e.LosesTarget m → (e.refusal? m).isSome)) ∧
    ∀ r s, (∀ error, m.refusal? (ModelM.attachImport r s) = some error →
        ((ModelM.attachImport r s).exec m).2 = m ∨ error = .stale ∧ m.ReplacesOwner r s) ∧
      (m.ReplacesOwner r s → (m.refusal? (ModelM.attachImport r s)).isSome) :=
  ⟨h.placed.atomicUnless_edit, fun r s => (atomicUnless_attachImport m r s).of_refusal⟩

/-- As long as imports only get sheets of their own, nothing is lost. -/
theorem Built.keepsTarget (h : Built compatibility m) :
    (∀ e : Edit, ¬ e.LosesTarget m) ∧ ∀ r s, m.IsAttachable r s → ¬ m.ReplacesOwner r s := by
  have hforest := h.forest
  refine ⟨fun e => ?_, fun r s hs => ?_⟩
  · cases e with
    | replaceRules s text => exact hforest.not_reaches_self
    | setRuleText r text => exact hforest.not_reaches_self
    | deleteRule c index =>
      rintro ⟨s, hx, hs⟩
      cases c with
      | sheet s' =>
        obtain ⟨hlive, heq⟩ := ownerSheet_sheet_eq_ok.1 hx
        obtain rfl := Option.some.inj heq
        simp [hs] at hlive
      | media r =>
        obtain ⟨rule, hr, hparent⟩ := ownerSheet_media_eq_ok.1 hx
        have hlive := hforest.isSome_parentSheet hr hparent
        simp [hs] at hlive
    | _ => exact id
  · rintro ⟨rule, href, media, old, hr, hc, hold, hreaches⟩
    have hno := hs.not_reaches_old hr hforest hc
    have hold' : (some old).filter (· != s) = some old := by simp [hold]
    rw [hold', reaches_setContent hr] at hno
    exact hno hreaches

end ObjectModel
end WebStyle
