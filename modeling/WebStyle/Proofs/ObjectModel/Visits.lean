import WebStyle.Proofs.ObjectModel.Soundness
/-!
Which sheets and rules styles depend on: those that are visited from the sheets that are held,
through their rules, media and imports. Changes of all others make no difference.
-/
set_option autoImplicit false

namespace WebStyle

/-- What styles depend on in a sheet. -/
def StyleSheet.shown (s : StyleSheet) : Bool × MediaList × Origin × List RuleId :=
  (s.disabled, s.media, s.origin, s.rules)

namespace ObjectModel

variable {m m' m'' : ObjectModel} {held : List SheetId} {s : SheetId} {r : RuleId}
  {p q : ModelPart} {ps : List ModelPart}

/-- What a sheet or rule shows: all that it owns but for deleted rules. -/
def shownBy (m : ObjectModel) : ModelPart → List ModelPart
  | .sheet s => ((m.sheet? s).map fun sheet => sheet.rules.map .rule).getD []
  | .rule r => ((m.rule? r).map (·.content.owned)).getD []

def Visits (m : ObjectModel) (held : List SheetId) (q : ModelPart) : Prop :=
  ∃ s ∈ held, Relation.ReflTransGen (fun p q => q ∈ m.shownBy p) (.sheet s) q

/-- Whether styles cannot tell a part of one model from that of another. -/
def LooksSame (m m' : ObjectModel) : ModelPart → Prop
  | .sheet s => (m'.sheet? s).map (·.shown) = (m.sheet? s).map (·.shown)
  | .rule r => (m'.rule? r).map (·.content) = (m.rule? r).map (·.content)

/-- Whether a change makes no difference to styles. -/
def Quiet (held : List SheetId) (m m' : ObjectModel) : Prop :=
  ∀ p, m.Visits held p → m.LooksSame m' p

theorem shownBy_subset_ownedBy (m : ObjectModel) (p : ModelPart) : m.shownBy p ⊆ m.ownedBy p := by
  cases p with
  | sheet s =>
    intro q hq
    cases hs : m.sheet? s with
    | none => simp [shownBy, hs] at hq
    | some sheet =>
      simp only [shownBy, hs, Option.map_some, Option.getD_some, List.mem_map] at hq
      obtain ⟨r, hr, rfl⟩ := hq
      simp [ownedBy, hs, StyleSheet.owned, hr]
  | rule r => exact fun _ hq => hq

theorem visits_held (hs : s ∈ held) : m.Visits held (.sheet s) := ⟨s, hs, .refl⟩

theorem Visits.shown (h : m.Visits held p) (hq : q ∈ m.shownBy p) : m.Visits held q := by
  obtain ⟨s, hs, hp⟩ := h
  exact ⟨s, hs, hp.tail hq⟩

/-- What is visited is held, or shown by something else that is visited. -/
theorem Visits.held_or_shown (h : m.Visits held q) :
    (∃ s ∈ held, q = .sheet s) ∨ ∃ p, m.Visits held p ∧ q ∈ m.shownBy p := by
  obtain ⟨s, hs, hsq⟩ := h
  rcases Relation.ReflTransGen.cases_tail hsq with rfl | ⟨p, hsp, hpq⟩
  · exact .inl ⟨s, hs, rfl⟩
  · exact .inr ⟨p, ⟨s, hs, hsp⟩, hpq⟩

theorem Untouched.looksSame (h : m.Untouched m' p) : m.LooksSame m' p := by
  cases p with
  | sheet s => rw [LooksSame, show m'.sheet? s = m.sheet? s from h]
  | rule r => rw [LooksSame, show m'.rule? r = m.rule? r from h]

theorem LooksSame.shownBy (h : m.LooksSame m' p) : m'.shownBy p = m.shownBy p := by
  cases p with
  | sheet s =>
    have h' := congrArg (Option.map fun x => x.2.2.2.map ModelPart.rule) h
    simp only [Option.map_map] at h'
    exact congrArg (Option.getD · []) h'
  | rule r =>
    have h' := congrArg (Option.map RuleContent.owned) h
    simp only [Option.map_map] at h'
    exact congrArg (Option.getD · []) h'

theorem LooksSame.trans (h : m.LooksSame m' p) (h' : m'.LooksSame m'' p) : m.LooksSame m'' p := by
  cases p with
  | sheet s => exact Eq.trans h' h
  | rule r => exact Eq.trans h' h

/-! ### Who is visited -/

namespace Sound

variable (h : m.Sound held)
include h

/-- What is owned by something that is not visited is not visited either. -/
theorem visits_of_mem_ownedBy (hq : m.Visits held q) (hpq : q ∈ m.ownedBy p) :
    m.Visits held p := by
  rcases hq.held_or_shown with ⟨s, hs, rfl⟩ | ⟨p', hp', hq'⟩
  · exact absurd hpq (h.heldFree s hs p)
  · rwa [h.unique p p' q hpq (m.shownBy_subset_ownedBy p' hq')]

theorem visits_of_reaches (hq : m.Visits held q) (hr : m.Reaches ps q) :
    ∃ p ∈ ps, m.Visits held p := by
  obtain ⟨p, hp, hpq⟩ := hr
  refine ⟨p, hp, ?_⟩
  induction hpq with
  | refl => exact hq
  | tail _ hbc ih => exact ih (h.visits_of_mem_ownedBy hq hbc)

/-- A rule that is visited belongs to a sheet that is visited, and there. -/
theorem exists_sheet_of_visits_rule (hv : m.Visits held (.rule r)) :
    ∃ rule s, m.rule? r = some rule ∧ rule.parentSheet = some s ∧ m.Visits held (.sheet s) ∧
      (m.sheet? s).isSome := by
  obtain ⟨s₀, hs₀, hpath⟩ := hv
  generalize hq : ModelPart.rule r = q at hpath
  induction hpath generalizing r with
  | refl => exact ModelPart.noConfusion hq
  | @tail b c hab hbc ih =>
    subst hq
    obtain ⟨rule, hrule⟩ := Option.isSome_iff_exists.1
      (h.live b r (m.shownBy_subset_ownedBy b hbc))
    cases b with
    | sheet s =>
      have hlive := isLive_of_mem_ownedBy (m.shownBy_subset_ownedBy _ hbc)
      obtain ⟨sheet, hs⟩ := Option.isSome_iff_exists.1 hlive
      have hr : r ∈ sheet.rules := by simpa [shownBy, hs] using hbc
      exact ⟨rule, s, hrule, h.inSheet s sheet hs r hr rule hrule, ⟨s₀, hs₀, hab⟩, hlive⟩
    | rule x =>
      obtain ⟨outer, s, hx, hps, hvs, hs⟩ := ih rfl
      have hr : r ∈ outer.content.children := by
        have hmem := (mem_ownedBy_rule hx).1 (m.shownBy_subset_ownedBy _ hbc)
        exact RuleContent.mem_owned_rule.1 hmem
      exact ⟨rule, s, hrule, (h.inMedia x outer hx r hr rule hrule).trans hps, hvs, hs⟩

theorem issued_of_visits (hv : m.Visits held (.sheet s)) : m.sheets.Issued s := by
  rcases hv.held_or_shown with ⟨s', hs', hss⟩ | ⟨p, -, hp⟩
  · obtain rfl := ModelPart.sheet.inj hss
    exact h.heldIssued s hs'
  · exact h.issued p s (m.shownBy_subset_ownedBy p hp)

/-- What is among its own belongings is not visited. -/
theorem not_visits_of_reaches_self (hr : m.Reaches (m.ownedBy p) p) : ¬ m.Visits held p := by
  rintro ⟨s₀, hs₀, hpath⟩
  have hcycle : Relation.TransGen (fun p q => q ∈ m.ownedBy p) p p := by
    obtain ⟨q, hq, hqp⟩ := hr
    exact .head' hq hqp
  clear hr
  induction hpath with
  | refl =>
    obtain ⟨b, -, hb⟩ := Relation.TransGen.tail'_iff.1 hcycle
    exact h.heldFree s₀ hs₀ b hb
  | tail _ hbc ih =>
    have hbc := m.shownBy_subset_ownedBy _ hbc
    obtain ⟨b', hcb, hb'⟩ := Relation.TransGen.tail'_iff.1 hcycle
    rw [h.unique _ _ _ hb' hbc] at hcb
    exact ih (.head' hbc hcb)

end Sound

/-! ### Changes that make no difference -/

namespace Quiet

theorem refl (held : List SheetId) (m : ObjectModel) : Quiet held m m := by
  intro p _
  cases p <;> rfl

theorem visits (h : Quiet held m m') (hp : m.Visits held p) : m'.Visits held p := by
  obtain ⟨s, hs, hpath⟩ := hp
  refine ⟨s, hs, ?_⟩
  induction hpath with
  | refl => exact .refl
  | @tail b c hab hbc ih =>
    refine ih.tail ?_
    rwa [(h b ⟨s, hs, hab⟩).shownBy]

theorem visits_iff (h : Quiet held m m') : m'.Visits held p ↔ m.Visits held p := by
  refine ⟨?_, h.visits⟩
  rintro ⟨s, hs, hpath⟩
  refine ⟨s, hs, ?_⟩
  induction hpath with
  | refl => exact .refl
  | @tail b c _ hbc ih =>
    refine ih.tail ?_
    rwa [(h b ⟨s, hs, ih⟩).shownBy] at hbc

theorem trans (h : Quiet held m m') (h' : Quiet held m' m'') : Quiet held m m'' :=
  fun p hp => (h p hp).trans (h' p (h.visits hp))

theorem of_lookups (hs : ∀ s, m'.sheet? s = m.sheet? s) (hr : ∀ r, m'.rule? r = m.rule? r) :
    Quiet held m m' := by
  intro p _
  cases p with
  | sheet s => exact Untouched.looksSame (p := .sheet s) (hs s)
  | rule r => exact Untouched.looksSame (p := .rule r) (hr r)

theorem modifyRule {f : Rule → Rule} (hr : ¬ m.Visits held (.rule r)) :
    Quiet held m (m.modifyRule r f) := by
  intro p hp
  cases p with
  | sheet s => rfl
  | rule x =>
    have hne : r ≠ x := fun hx => hr (hx ▸ hp)
    exact Untouched.looksSame (p := .rule x) (by rw [Untouched, rule?_modifyRule, if_neg hne])

theorem modifySheet {f : StyleSheet → StyleSheet} (hs : ¬ m.Visits held (.sheet s)) :
    Quiet held m (m.modifySheet s f) := by
  intro p hp
  cases p with
  | rule r => rfl
  | sheet x =>
    have hne : s ≠ x := fun hx => hs (hx ▸ hp)
    exact Untouched.looksSame (p := .sheet x) (by rw [Untouched, sheet?_modifySheet, if_neg hne])

theorem modifySheet_of_shown {f : StyleSheet → StyleSheet} (hf : ∀ y, (f y).shown = y.shown) :
    Quiet held m (m.modifySheet s f) := by
  intro p _
  cases p with
  | rule r => rfl
  | sheet x =>
    simp only [LooksSame, sheet?_modifySheet]
    split
    · cases m.sheet? x <;> simp [hf]
    · rfl

theorem orphan (r : RuleId) : Quiet held m (m.orphan r) := by
  intro p _
  have ho := m.orphans_orphan r
  cases p with
  | sheet s => exact Untouched.looksSame (p := .sheet s) (ho.sheet?_eq s)
  | rule x => exact ho.content_eq x

end Quiet

namespace Sound

variable (h : m.Sound held)
include h

theorem quiet_free (hps : ∀ p ∈ ps, ¬ m.Visits held p) : Quiet held m (m.free ps) := by
  intro p hp
  refine ((m.frees_free ps).other p fun hr => ?_).looksSame
  obtain ⟨q, hq, hv⟩ := h.visits_of_reaches hp hr
  exact hps q hq hv

theorem quiet_createSheet (hw : m.sheets.Unwrapped) (href : Option String) (media : String)
    (origin : Origin) : Quiet held m (m.createSheet href media origin).1 := by
  intro p hp
  cases p with
  | rule x => rfl
  | sheet x =>
    have hne : x ≠ (m.createSheet href media origin).2 := by
      rintro rfl
      exact h.sheets.not_issued_fresh hw _ (h.issued_of_visits hp)
    exact Untouched.looksSame (p := .sheet x) (by rw [Untouched, h.sheet?_createSheet, if_neg hne])

end Sound

/-! ### Time passing -/

/-- How a model changes in time: places are freed and used again, and changes are noted. -/
structure Evolves (m m' : ObjectModel) : Prop where
  sheetsGrow : m.sheets.Grows m'.sheets
  rulesGrow : m.rules.Grows m'.rules
  compatibility : m'.compatibility = m.compatibility
  changes : ∃ l, m'.changes = m.changes ++ l

namespace Evolves

theorem refl (m : ObjectModel) : m.Evolves m := ⟨.refl _, .refl _, rfl, [], by simp⟩

theorem trans (h : m.Evolves m') (h' : m'.Evolves m'') : m.Evolves m'' where
  sheetsGrow := h.sheetsGrow.trans h'.sheetsGrow
  rulesGrow := h.rulesGrow.trans h'.rulesGrow
  compatibility := h'.compatibility.trans h.compatibility
  changes := by
    obtain ⟨l, hl⟩ := h.changes
    obtain ⟨l', hl'⟩ := h'.changes
    exact ⟨l ++ l', by rw [hl', hl, List.append_assoc]⟩

theorem modifyRule (m : ObjectModel) (r : RuleId) (f : Rule → Rule) :
    m.Evolves (m.modifyRule r f) :=
  ⟨.refl _, Slots.grows_modify _ _ _, rfl, [], by simp [ObjectModel.modifyRule]⟩

theorem modifySheet (m : ObjectModel) (s : SheetId) (f : StyleSheet → StyleSheet) :
    m.Evolves (m.modifySheet s f) :=
  ⟨Slots.grows_modify _ _ _, .refl _, rfl, [], by simp [ObjectModel.modifySheet]⟩

theorem note (m : ObjectModel) (c : Change) : m.Evolves (m.note c) :=
  ⟨.refl _, .refl _, rfl, [c], rfl⟩

theorem noteChanged (m : ObjectModel) (s : Option SheetId) : m.Evolves (m.noteChanged s) := by
  cases s with
  | none => exact .refl m
  | some s => exact .note m _

theorem noteImport (m : ObjectModel) (type : RuleType) (sheet : Option SheetId) (r : RuleId) :
    m.Evolves (m.noteImport type sheet r) := by
  unfold ObjectModel.noteImport
  split
  · exact .note m _
  · exact .refl m

theorem free (m : ObjectModel) (ps : List ModelPart) : m.Evolves (m.free ps) := by
  have hf := m.frees_free ps
  exact ⟨hf.sheetsGrow, hf.rulesGrow, hf.compatibility, [], by rw [hf.changes, List.append_nil]⟩

theorem orphan (m : ObjectModel) (r : RuleId) : m.Evolves (m.orphan r) := by
  have ho := m.orphans_orphan r
  refine ⟨?_, ho.grows, ?_, [], ?_⟩
  · rw [ho.eq]
    exact .refl _
  · rw [ho.eq]
  · rw [ho.eq, List.append_nil]

theorem createSheet (m : ObjectModel) (href : Option String) (media : String) (origin : Origin) :
    m.Evolves (m.createSheet href media origin).1 :=
  ⟨Slots.grows_insert _ _, .refl _, rfl, [], (List.append_nil _).symm⟩

end Evolves

end ObjectModel
end WebStyle
