import WebStyle.Proofs.ObjectModel.Alterations
/-!
What inserting and deleting a rule do to the lists of all containers. One list gets or loses one
position, and a rule that is deleted where it was inserted leaves all lists as they were.
-/
set_option autoImplicit false

namespace WebStyle.ObjectModel

variable {m m' m'' m₁ : ObjectModel} {s : SheetId} {r x : RuleId} {rule : Rule}
  {c d : RuleContainer} {list ids : List RuleId} {o : Option SheetId} {parent : Option RuleId}
  {text : String} {index n : Nat} {source : RuleSource}

theorem part_ne_of_rule?_ne (h : c.rule? ≠ some x) : ModelPart.rule x ≠ c.part := by
  cases c with
  | sheet s => nofun
  | media r =>
    intro heq
    exact h (by rw [ModelPart.rule.inj heq]; rfl)

theorem untouched_noteChanged (o : Option SheetId) (p : ModelPart) :
    m.Untouched (m.noteChanged o) p := by
  cases p with
  | sheet s => exact sheet?_noteChanged o
  | rule r => exact rule?_noteChanged o

/-! ### Inserting -/

/-- What a model becomes in which one list gets a rule. -/
structure GetsRule (m m' : ObjectModel) (c : RuleContainer) (o : Option SheetId)
    (list : List RuleId) (r : RuleId) : Prop where
  rulesOf : m'.rulesOf c = .ok list
  others : ∀ d, d ≠ c → m.IsLive d.part → m'.rulesOf d = m.rulesOf d
  kept : ∀ x, (m.rule? x).isSome → c.rule? ≠ some x → m'.rule? x = m.rule? x
  links : ∀ x y, m.rule? x = some y → ∃ y', m'.rule? x = some y' ∧
    y'.parentRule = y.parentRule ∧ y'.parentSheet = y.parentSheet
  new : m.rule? r = none
  rule : ∃ y, m'.rule? r = some y ∧ y.parentRule = c.rule? ∧ y.parentSheet = o

theorem Placed.of_insertRule_eq_ok (h : m.Placed)
    (hok : (ModelM.insertRule c text index).exec m = (.ok n, m')) :
    ∃ list source o m₁ r, ModelM.Inserts m c text index list source o ∧
      Plants o c.rule? m m₁ [r] ∧ m₁.isImport r = (source.type == .importing) ∧
      m' = (m₁.modifyRules (fun l => l.take index ++ r :: l.drop index) c).noteChanged o := by
  rcases ModelM.exec_insertRule_cases (m := m) c text index with
    ⟨e, he⟩ | ⟨list, source, o, hins, he⟩
  · cases (Prod.mk.inj (he.symm.trans hok)).1
  · obtain ⟨m₁, r, hp, himport, heq⟩ := h.exists_planted hins
    exact ⟨list, source, o, m₁, r, hins, hp, himport,
      (Prod.mk.inj (he.symm.trans hok)).2.symm.trans heq⟩

theorem Plants.untouched (h : Plants o parent m m₁ ids) {p : ModelPart} (hp : m.IsLive p) :
    m.Untouched m₁ p := by
  cases p with
  | sheet s => rw [Untouched, sheet?, sheet?, h.stocks.sheets]
  | rule x => exact h.stocks.kept x hp

/-- A rule that was added gets into the list of its container. -/
theorem Plants.getsRule (h : Plants o c.rule? m m₁ [r])
    (hl : m.rulesOf c = .ok list) (hi : index ≤ list.length) :
    GetsRule m ((m₁.modifyRules (fun l => l.take index ++ r :: l.drop index) c).noteChanged o) c o
      (list.insertIdx index r) r := by
  have hnew : m.rule? r = Option.none := h.stocks.fresh r (List.mem_singleton_self r)
  obtain ⟨y, hy⟩ := Option.isSome_iff_exists.1 (h.stocks.live r (List.mem_singleton_self r))
  have hne : c.rule? ≠ some r := by
    intro heq
    cases c with
    | sheet s => cases heq
    | media q =>
      obtain ⟨rule, l, hq, -⟩ := rulesOf_media_eq_ok.1 hl
      obtain rfl : q = r := Option.some.inj heq
      simp [hnew] at hq
  have hother : ∀ p : ModelPart, p ≠ c.part → m₁.Untouched
      ((m₁.modifyRules (fun l => l.take index ++ r :: l.drop index) c).noteChanged o) p := by
    intro p hp
    exact untouched_trans (untouched_modifyRules hp) (untouched_noteChanged o p)
  refine ⟨?_, fun d hd hlive => ?_, fun x hx hcx => ?_, fun x y hy => ?_, hnew, ?_⟩
  · rw [rulesOf_congr (untouched_noteChanged o c.part), rulesOf_modifyRules (h.stocks.rulesOf hl),
      insertIdx_eq_append r hi]
  · have hpart : d.part ≠ c.part := fun heq => hd (RuleContainer.part_injective heq)
    rw [rulesOf_congr (hother d.part hpart), rulesOf_congr (h.untouched hlive)]
  · exact (hother (.rule x) (part_ne_of_rule?_ne hcx)).trans (h.stocks.kept x hx)
  · have hx : m₁.rule? x = some y := (h.stocks.kept x (by rw [hy]; rfl)).trans hy
    obtain ⟨y', hy', hlinks⟩ := exists_rule_of_modifyRules (c := c)
      (f := fun l => l.take index ++ r :: l.drop index) hx
    exact ⟨y', (rule?_noteChanged o).trans hy', hlinks⟩
  · exact ⟨y, (hother (.rule r) (part_ne_of_rule?_ne hne)).trans hy,
      h.links r (List.mem_singleton_self r) y hy⟩

/-! ### Deleting -/

theorem rulesOf_orphan (r : RuleId) (d : RuleContainer) :
    (m.orphan r).rulesOf d = m.rulesOf d := by
  have ho := orphans_orphan m r
  cases d with
  | sheet s => exact rulesOf_congr (c := .sheet s) (ho.sheet?_eq s)
  | media x =>
    cases hx : (m.orphan r).rule? x with
    | none =>
      refine rulesOf_congr (c := .media x) ?_
      have hsome := ho.isSome x
      rw [hx, Option.isSome_none] at hsome
      exact hx.trans (Option.not_isSome_iff_eq_none.1 (by simp [← hsome])).symm
    | some y =>
      obtain ⟨y₀, hy₀, hcontent, -⟩ := ho.rule x y hx
      simp only [rulesOf, ObjectModel.rule, hx, hy₀, live, bind, Except.bind, hcontent]

theorem rulesOf_modifySheet {f : StyleSheet → StyleSheet} (hf : ∀ y, (f y).rules = y.rules)
    (d : RuleContainer) : (m.modifySheet s f).rulesOf d = m.rulesOf d := by
  cases d with
  | media x => rfl
  | sheet t =>
    simp only [rulesOf, ObjectModel.sheet, sheet?_modifySheet]
    cases m.sheet? t with
    | none => split <;> rfl
    | some y =>
      split
      · simp only [Option.map_some, live, bind, Except.bind, hf]
      · rfl

theorem rulesOf_note (e : Change) (d : RuleContainer) : (m.note e).rulesOf d = m.rulesOf d := by
  cases d <;> rfl

/-- A rule that a sheet keeps when it is deleted leaves its list, and no other list changes. -/
theorem rulesOf_deleteRule {result : Except ModelError Unit} (hl : m.rulesOf c = .ok list)
    (hx : m.ownerSheet c = .ok (some s)) (hr : list[index]? = some r)
    (hrun : (ModelM.deleteRule c index).exec m = (result, m')) (d : RuleContainer) :
    m'.rulesOf d = (m.modifyRules (·.eraseIdx index) c).rulesOf d := by
  rw [ModelM.exec_deleteRule_of_some hl hr hx] at hrun
  split at hrun <;> obtain ⟨-, rfl⟩ := Prod.mk.inj hrun
  · rw [rulesOf_note]
    have hkept := rulesOf_modifySheet (m := (m.modifyRules (·.eraseIdx index) c).orphan r)
      (s := s) (f := fun y => { y with deleted := y.deleted ++ [r] }) (fun _ => rfl) d
    exact hkept.trans (rulesOf_orphan r d)
  · exact rulesOf_orphan r d

/-- From a rule that was added, only rules are reached that were added. -/
theorem Plants.exists_of_reaches (h : Plants o parent m m₁ ids)
    (hsame : ∀ x, m.rule? x = Option.none → m''.rule? x = m₁.rule? x) (hr : m.rule? r = Option.none)
    {q : ModelPart} (hq : m''.Reaches [.rule r] q) :
    ∃ x, q = .rule x ∧ m.rule? x = Option.none := by
  obtain ⟨a, ha, hpath⟩ := hq
  obtain rfl := List.mem_singleton.1 ha
  induction hpath with
  | refl => exact ⟨r, rfl, hr⟩
  | @tail b q _ hbq ih =>
    obtain ⟨x, rfl, hx⟩ := ih
    rw [Untouched.ownedBy (m := m₁) (p := .rule x) (hsame x hx)] at hbq
    cases q with
    | sheet s => exact absurd hbq (h.unloaded x hx s)
    | rule z => exact ⟨z, rfl, (h.inner x hx z (mem_innerOf.2 hbq)).1⟩

theorem ownerSheet_of_getsRule (h : GetsRule m m' c o list r) (hx : m.ownerSheet c = .ok o)
    (hsheets : ∀ s, (m'.sheet? s).isSome = (m.sheet? s).isSome) : m'.ownerSheet c = .ok o := by
  cases c with
  | sheet s =>
    obtain ⟨hs, rfl⟩ := ownerSheet_sheet_eq_ok.1 hx
    exact ownerSheet_sheet_eq_ok.2 ⟨(hsheets s).trans hs, rfl⟩
  | media q =>
    obtain ⟨rule, hq, rfl⟩ := ownerSheet_media_eq_ok.1 hx
    obtain ⟨y, hy, -, hsheet⟩ := h.links q rule hq
    exact ownerSheet_media_eq_ok.2 ⟨y, hy, hsheet⟩

/-- A rule that is deleted where it was inserted leaves the lists of all containers as they were.
The deletion goes through unless the sheet is gone that the container belongs to. -/
theorem Placed.rulesOf_insertRule_deleteRule (h : m.Placed) {result : Except ModelError Unit}
    (hok : (ModelM.insertRule c text index).exec m = (.ok n, m'))
    (hrun : (ModelM.deleteRule c index).exec m' = (result, m'')) :
    (∀ d, m.IsLive d.part → m''.rulesOf d = m.rulesOf d) ∧
      (result = .ok () ∨ ∃ s, m.ownerSheet c = .ok (some s) ∧ m.sheet? s = none) := by
  obtain ⟨list, source, o, m₁, r, hins, hp, -, rfl⟩ := h.of_insertRule_eq_ok hok
  have hget := hp.getsRule hins.rulesOf hins.le_length
  have hsheets : ∀ s, (((m₁.modifyRules (fun l => l.take index ++ r :: l.drop index) c).noteChanged
      o).sheet? s).isSome = (m.sheet? s).isSome := fun s => by
    rw [sheet?_noteChanged, sheet?_modifyRules_isSome, sheet?, sheet?, hp.stocks.sheets]
  have hne : ∀ x, m.rule? x = none → some c.part ≠ some (.rule x) := by
    intro x hx heq
    have hlive := isLive_of_rulesOf hins.rulesOf
    rw [Option.some.inj heq] at hlive
    simp [IsLive, hx] at hlive
  have hadded : ∀ x, m.rule? x = none → ((m₁.modifyRules
      (fun l => l.take index ++ r :: l.drop index) c).noteChanged o).rule? x = m₁.rule? x :=
    fun x hx => (rule?_noteChanged o).trans (rule?_modifyRules_of_ne (hne x hx))
  have hx := ownerSheet_of_getsRule hget hins.ownerSheet hsheets
  generalize (m₁.modifyRules (fun l => l.take index ++ r :: l.drop index) c).noteChanged o = m' at *
  have hr : (list.insertIdx index r)[index]? = some r := by
    rw [List.getElem?_insertIdx_self, if_pos hins.le_length]
  have herased : ∀ d, m.IsLive d.part →
      (m'.modifyRules (·.eraseIdx index) c).rulesOf d = m.rulesOf d := by
    intro d hd
    by_cases hdc : d = c
    · rw [hdc, rulesOf_modifyRules hget.rulesOf, List.eraseIdx_insertIdx_self, hins.rulesOf]
    · have hpart : d.part ≠ c.part := fun heq => hdc (RuleContainer.part_injective heq)
      rw [rulesOf_congr (untouched_modifyRules hpart), hget.others d hdc hd]
  cases o with
  | some s =>
    refine ⟨fun d hd => (rulesOf_deleteRule hget.rulesOf hx hr hrun d).trans (herased d hd), ?_⟩
    rw [ModelM.exec_deleteRule_of_some hget.rulesOf hr hx] at hrun
    split at hrun <;> rename_i hlive
    · exact .inl (Prod.mk.inj hrun).1.symm
    · rw [(orphans_orphan _ r).sheet?_eq, sheet?_modifyRules_isSome, hsheets] at hlive
      exact .inr ⟨s, hins.ownerSheet, by simpa using hlive⟩
  | none =>
    rw [ModelM.exec_deleteRule_of_none hget.rulesOf hr hx] at hrun
    obtain ⟨rfl, rfl⟩ := Prod.mk.inj hrun
    refine ⟨fun d hd => ?_, .inl rfl⟩
    have hsame : ∀ x, m.rule? x = none →
        (m'.modifyRules (·.eraseIdx index) c).rule? x = m₁.rule? x := fun x hx =>
      (rule?_modifyRules_of_ne (hne x hx)).trans (hadded x hx)
    -- freeing the rule reaches only what came in with it
    have hno : ¬ (m'.modifyRules (·.eraseIdx index) c).Reaches [.rule r] d.part := by
      intro hreach
      obtain ⟨x, hdx, hx⟩ := hp.exists_of_reaches hsame hget.new hreach
      rw [hdx] at hd
      simp [IsLive, hx] at hd
    rw [rulesOf_congr ((frees_free _ _).other d.part hno), herased d hd]

end WebStyle.ObjectModel
