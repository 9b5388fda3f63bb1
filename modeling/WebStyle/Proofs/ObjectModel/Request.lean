import WebStyle.ObjectModel.Edit
/-!
How requests to an object model run: what they give, and what they make of the model, also where
they are refused on the way.
-/
set_option autoImplicit false

namespace WebStyle

/-- The model after a sheet lost its rules. -/
def ObjectModel.withoutRules (m : ObjectModel) (s : SheetId) (sheet : StyleSheet) : ObjectModel :=
  (m.modifySheet s fun sheet => { sheet with rules := [], deleted := [] }).free sheet.owned

/-- The model after a rule was added to those of a container, before the one of the given index. -/
def ObjectModel.withRule (m : ObjectModel) (sheet : Option SheetId) (c : RuleContainer)
    (source : RuleSource) (index : Nat) : ObjectModel :=
  ((m.adoptAll sheet c.rule? [source]).1.modifyRules (fun l =>
    l.take index ++ (m.adoptAll sheet c.rule? [source]).2 ++ l.drop index) c).noteChanged sheet

namespace ModelM

variable {α β : Type} {m : ObjectModel} {s : SheetId} {r : RuleId}

/-- What a request gives, and the model after it. -/
def exec (f : ModelM α) (m : ObjectModel) : Except ModelError α × ObjectModel := f.run.run m

theorem exec_bind (f : ModelM α) (g : α → ModelM β) (m : ObjectModel) : (f >>= g).exec m =
    match f.exec m with
    | (.ok a, m') => (g a).exec m'
    | (.error e, m') => (.error e, m') := by
  simp only [exec, ExceptT.run_bind, StateT.run_bind]
  change (match f.run.run m with | (_, _) => _) = _
  cases f.run.run m with
  | mk x m' => cases x <;> rfl

@[simp] theorem exec_pure (a : α) : (pure a : ModelM α).exec m = (.ok a, m) := rfl

@[simp] theorem exec_throw (e : ModelError) : (throw e : ModelM α).exec m = (.error e, m) := rfl

@[simp] theorem exec_get : (get : ModelM ObjectModel).exec m = (.ok m, m) := rfl

@[simp] theorem exec_modify (f : ObjectModel → ObjectModel) :
    (modify f : ModelM PUnit).exec m = (.ok (), f m) := rfl

@[simp] theorem exec_update (f : ObjectModel → ObjectModel × α) :
    (update f).exec m = (.ok (f m).2, (f m).1) := rfl

@[simp] theorem exec_noteChanged (x : Option SheetId) :
    (noteChanged x).exec m = (.ok (), m.noteChanged x) := rfl

@[simp] theorem exec_ask (f : ObjectModel → Except ModelError α) :
    (ask f).exec m = (f m, m) := by
  simp only [ask, exec_bind, exec_get]
  cases f m <;> rfl

/-- A question that is answered. -/
theorem exec_ask_bind_ok {f : ObjectModel → Except ModelError α} {g : α → ModelM β} {a : α}
    (h : f m = .ok a) : (ask f >>= g).exec m = (g a).exec m := by
  rw [exec_bind, exec_ask, h]

/-- A question that is refused. -/
theorem exec_ask_bind_error {f : ObjectModel → Except ModelError α} {g : α → ModelM β}
    {e : ModelError} (h : f m = .error e) : (ask f >>= g).exec m = (.error e, m) := by
  rw [exec_bind, exec_ask, h]

theorem exec_sheet_bind (g : StyleSheet → ModelM β) : (ask (·.sheet s) >>= g).exec m =
    match m.sheet? s with
    | some sheet => (g sheet).exec m
    | none => (.error .stale, m) := by
  rw [exec_bind, exec_ask, ObjectModel.sheet]
  cases m.sheet? s <;> rfl

theorem exec_rule_bind (g : Rule → ModelM β) : (ask (·.rule r) >>= g).exec m =
    match m.rule? r with
    | some rule => (g rule).exec m
    | none => (.error .stale, m) := by
  rw [exec_bind, exec_ask, ObjectModel.rule]
  cases m.rule? r <;> rfl

theorem exec_modify_bind (f : ObjectModel → ObjectModel) (g : PUnit → ModelM β) :
    ((modify f : ModelM PUnit) >>= g).exec m = (g ()).exec (f m) := by
  rw [exec_bind, exec_modify]

theorem exec_update_bind (f : ObjectModel → ObjectModel × α) (g : α → ModelM β) :
    (update f >>= g).exec m = (g (f m).2).exec (f m).1 := by
  rw [exec_bind, exec_update]

theorem exec_noteChanged_bind (x : Option SheetId) (g : PUnit → ModelM β) :
    (noteChanged x >>= g).exec m = (g ()).exec (m.noteChanged x) := by
  rw [exec_bind, exec_noteChanged]

/-- Reading a rule changes nothing. -/
theorem exec_readRule (text : String) : ∃ x, (readRule text).exec m = (x, m) := by
  simp only [readRule]
  cases RuleSource.ofString text with
  | error e => exact ⟨_, rfl⟩
  | ok source =>
    simp only [exec_bind, exec_get]
    split <;> exact ⟨_, rfl⟩

/-! ### The requests -/

theorem exec_replaceRules_of_none (hs : m.sheet? s = none) (text : String) :
    (replaceRules s text).exec m = (.error .stale, m) := by
  simp only [replaceRules, exec_sheet_bind, hs]

theorem exec_replaceRules_of_some {sheet : StyleSheet} {text : String} {m₂ : ObjectModel}
    {rules : List RuleId} (hs : m.sheet? s = some sheet)
    (ha : (m.withoutRules s sheet).adoptAll (some s) none (SheetSource.ofString text).rules =
      (m₂, rules)) :
    (replaceRules s text).exec m =
      if (m₂.sheet? s).isSome then
        (.ok (), (m₂.modifySheet s fun sheet => { sheet with rules }).note (.changed s))
      else (.error .stale, m₂) := by
  rw [ObjectModel.withoutRules] at ha
  simp only [replaceRules, exec_sheet_bind, hs, exec_modify_bind, exec_update_bind, ha]
  cases m₂.sheet? s with
  | none => rfl
  | some sheet => rfl

theorem exec_setOwner_of_some {sheet : StyleSheet} (hs : m.sheet? s = some sheet)
    (node : Option NodeId) (title : Option String) : (setOwner s node title).exec m =
      (.ok (), m.modifySheet s fun sheet => { sheet with ownerNode := node, title }) := by
  rw [setOwner, exec_sheet_bind, hs]
  rfl

/-- Rules that were replaced are noted. -/
theorem changes_replaceRules {text : String} {m' : ObjectModel} {u : Unit}
    (h : (replaceRules s text).exec m = (.ok u, m')) : m'.changes ≠ [] := by
  cases hs : m.sheet? s with
  | none => simp [exec_replaceRules_of_none hs] at h
  | some sheet =>
    rw [exec_replaceRules_of_some hs rfl] at h
    split at h
    · obtain ⟨-, rfl⟩ := Prod.mk.inj h
      simp [ObjectModel.note]
    · simp at h

/-- A sheet that was removed is noted. -/
theorem changes_removeSheet {m' : ObjectModel} {u : Unit}
    (h : (removeSheet s).exec m = (.ok u, m')) : m'.changes ≠ [] := by
  rw [removeSheet, exec_sheet_bind] at h
  cases hs : m.sheet? s with
  | none => simp [hs] at h
  | some sheet =>
    rw [hs, exec_modify] at h
    obtain ⟨-, rfl⟩ := Prod.mk.inj h
    simp [ObjectModel.note]

/-- A rule that is read is kept, and reading it changes nothing. -/
theorem readRule_eq_ok {text : String} {source : RuleSource} {m' : ObjectModel}
    (h : (readRule text).exec m = (.ok source, m')) :
    RuleSource.ofString text = .ok source ∧ m.compatibility.keeps source ∧ m' = m := by
  simp only [readRule] at h
  cases hs : RuleSource.ofString text with
  | error e =>
    rw [hs] at h
    cases h
  | ok x =>
    simp only [hs, exec_bind, exec_get] at h
    split at h
    · rename_i hkeeps
      obtain ⟨hx, rfl⟩ := Prod.mk.inj h
      obtain rfl := Except.ok.inj hx
      exact ⟨rfl, hkeeps, rfl⟩
    · cases h

theorem exec_readRule_of_ok {text : String} {source : RuleSource}
    (hs : RuleSource.ofString text = .ok source) (hk : m.compatibility.keeps source) :
    (readRule text).exec m = (.ok source, m) := by
  simp only [readRule, hs, exec_bind, exec_get, if_pos hk]
  rfl

/-- A rule that can be read is inserted unless it would stand at a wrong place. -/
theorem exec_insertRule_of_ok {c : RuleContainer} {text : String} {index : Nat}
    {list : List RuleId} {source : RuleSource} {sheet : Option SheetId}
    (hl : m.rulesOf c = .ok list) (hi : index ≤ list.length)
    (hs : RuleSource.ofString text = .ok source) (hk : m.compatibility.keeps source)
    (hx : m.ownerSheet c = .ok sheet) : (insertRule c text index).exec m =
      match m.misplaced? (source.type == .importing) (list.take index) (list.drop index) c with
      | some cause => (.error (.hierarchy cause), m)
      | none => (.ok index, m.withRule sheet c source index) := by
  rw [insertRule, exec_ask_bind_ok hl, if_neg (Nat.not_lt.2 hi), exec_bind,
    exec_readRule_of_ok hs hk]
  simp only [exec_bind, exec_get]
  cases m.misplaced? (source.type == .importing) (list.take index) (list.drop index) c with
  | some cause => rfl
  | none =>
    rw [exec_ask_bind_ok hx]
    rfl

/-- What holds where a rule is inserted. -/
structure Inserts (m : ObjectModel) (c : RuleContainer) (text : String) (index : Nat)
    (list : List RuleId) (source : RuleSource) (sheet : Option SheetId) : Prop where
  rulesOf : m.rulesOf c = .ok list
  le_length : index ≤ list.length
  ofString : RuleSource.ofString text = .ok source
  keeps : m.compatibility.keeps source
  misplaced? : m.misplaced? (source.type == .importing) (list.take index) (list.drop index) c = none
  ownerSheet : m.ownerSheet c = .ok sheet

/-- A rule is inserted where all is well, or the request is refused and nothing changes. -/
theorem exec_insertRule_cases (c : RuleContainer) (text : String) (index : Nat) :
    (∃ e, (insertRule c text index).exec m = (.error e, m)) ∨
      ∃ list source sheet, Inserts m c text index list source sheet ∧
        (insertRule c text index).exec m = (.ok index, m.withRule sheet c source index) := by
  generalize hrun : (insertRule c text index).exec m = result
  rw [insertRule] at hrun
  cases hl : m.rulesOf c with
  | error e => exact .inl ⟨e, by rw [← hrun, exec_ask_bind_error hl]⟩
  | ok list =>
    rw [exec_ask_bind_ok hl] at hrun
    by_cases hi : index > list.length
    · rw [if_pos hi] at hrun
      exact .inl ⟨_, hrun.symm⟩
    · rw [if_neg hi] at hrun
      obtain ⟨x, hx⟩ := exec_readRule text (m := m)
      rw [exec_bind, hx] at hrun
      cases x with
      | error e => exact .inl ⟨e, hrun.symm⟩
      | ok source =>
        obtain ⟨hs, hk, -⟩ := readRule_eq_ok hx
        simp only [exec_bind, exec_get] at hrun
        split at hrun
        · exact .inl ⟨_, hrun.symm⟩
        · rename_i hplaced
          cases hsheet : m.ownerSheet c with
          | error e => exact .inl ⟨e, by rw [← hrun, exec_ask_bind_error hsheet]⟩
          | ok sheet =>
            rw [exec_ask_bind_ok hsheet, exec_update_bind, exec_modify_bind,
              exec_noteChanged_bind] at hrun
            have hplaced : m.misplaced? (source.type == .importing) (list.take index)
                (list.drop index) c = none := Option.eq_none_iff_forall_ne_some.2 hplaced
            exact .inr ⟨list, source, sheet, ⟨hl, Nat.not_lt.1 hi, hs, hk, hplaced, hsheet⟩,
              hrun.symm⟩

/-- A rule is inserted, or the request is refused and nothing changes. -/
theorem exec_insertRule (c : RuleContainer) (text : String) (index : Nat) :
    (∃ e, (insertRule c text index).exec m = (.error e, m)) ∨
      ∃ list source sheet, m.rulesOf c = .ok list ∧ m.ownerSheet c = .ok sheet ∧
        (insertRule c text index).exec m =
          (.ok index, ((m.adoptAll sheet c.rule? [source]).1.modifyRules (fun l =>
            l.take index ++ (m.adoptAll sheet c.rule? [source]).2 ++ l.drop index) c).noteChanged
              sheet) := by
  rcases exec_insertRule_cases c text index (m := m) with h | ⟨list, source, sheet, h, he⟩
  · exact .inl h
  · exact .inr ⟨list, source, sheet, h.rulesOf, h.ownerSheet, he⟩

section DeleteRule

variable {c : RuleContainer} {index : Nat} {list : List RuleId} (hl : m.rulesOf c = .ok list)
  (hr : list[index]? = some r)
include hl hr

/-- A rule that belongs to no sheet is freed. -/
theorem exec_deleteRule_of_none (hx : m.ownerSheet c = .ok none) :
    (deleteRule c index).exec m =
      (.ok (), (m.modifyRules (·.eraseIdx index) c).free [.rule r]) := by
  rw [deleteRule, exec_ask_bind_ok hx, exec_ask_bind_ok hl]
  simp only [hr, exec_modify_bind]
  rfl

/-- A rule that belongs to a sheet is kept by it. -/
theorem exec_deleteRule_of_some (hx : m.ownerSheet c = .ok (some s)) :
    (deleteRule c index).exec m =
      if (((m.modifyRules (·.eraseIdx index) c).orphan r).sheet? s).isSome then
        (.ok (), (((m.modifyRules (·.eraseIdx index) c).orphan r).modifySheet s fun sheet =>
          { sheet with deleted := sheet.deleted ++ [r] }).note (.changed s))
      else (.error .stale, (m.modifyRules (·.eraseIdx index) c).orphan r) := by
  rw [deleteRule, exec_ask_bind_ok hx, exec_ask_bind_ok hl]
  simp only [hr, exec_modify_bind, exec_sheet_bind]
  cases ((m.modifyRules (·.eraseIdx index) c).orphan r).sheet? s with
  | none => rfl
  | some sheet => rfl

end DeleteRule

/-- A rule is deleted, or the request is refused. It is refused late if the sheet is gone that the
rule belongs to. -/
theorem exec_deleteRule (c : RuleContainer) (index : Nat) :
    (∃ e, (deleteRule c index).exec m = (.error e, m)) ∨
      ∃ list sheet r, m.rulesOf c = .ok list ∧ m.ownerSheet c = .ok sheet ∧
        list[index]? = some r ∧ (deleteRule c index).exec m =
          match sheet with
          | none => (.ok (), (m.modifyRules (·.eraseIdx index) c).free [.rule r])
          | some s =>
            if (((m.modifyRules (·.eraseIdx index) c).orphan r).sheet? s).isSome then
              (.ok (), (((m.modifyRules (·.eraseIdx index) c).orphan r).modifySheet s fun sheet =>
                { sheet with deleted := sheet.deleted ++ [r] }).note (.changed s))
            else (.error .stale, (m.modifyRules (·.eraseIdx index) c).orphan r) := by
  generalize hrun : (deleteRule c index).exec m = result
  rw [deleteRule] at hrun
  cases hs : m.ownerSheet c with
  | error e => exact .inl ⟨e, by rw [← hrun, exec_ask_bind_error hs]⟩
  | ok sheet =>
    cases hl : m.rulesOf c with
    | error e => exact .inl ⟨e, by rw [← hrun, exec_ask_bind_ok hs, exec_ask_bind_error hl]⟩
    | ok list =>
      cases hr : list[index]? with
      | none =>
        rw [exec_ask_bind_ok hs, exec_ask_bind_ok hl] at hrun
        exact .inl ⟨_, by rw [← hrun, hr]; rfl⟩
      | some r =>
        refine .inr ⟨list, sheet, r, rfl, rfl, hr, ?_⟩
        rw [← hrun]
        cases sheet with
        | none => exact exec_deleteRule_of_none hl hr hs
        | some s => exact exec_deleteRule_of_some hl hr hs

/-- A rule is replaced, or the request is refused. It is refused late if the rule was freed with
what it owned. -/
theorem exec_setRuleText (text : String) :
    (∃ e, (setRuleText r text).exec m = (.error e, m)) ∨
      ∃ rule source m₂ content, m.rule? r = some rule ∧
        (RuleSource.ofString text = .ok source ∧ source.type = rule.content.type) ∧
        ((m.setContent r .placeholder).free rule.content.owned).build rule.parentSheet r source =
          (m₂, content) ∧
        (setRuleText r text).exec m =
          if (m₂.rule? r).isSome then
            (.ok (), ((m₂.setContent r content).noteImport rule.content.type rule.parentSheet
              r).noteChanged rule.parentSheet)
          else (.error .stale, m₂) := by
  generalize hrun : (setRuleText r text).exec m = result
  rw [setRuleText] at hrun
  cases hl : m.ruleType r with
  | error e => exact .inl ⟨e, by rw [← hrun, exec_ask_bind_error hl]⟩
  | ok current =>
    rw [exec_ask_bind_ok hl] at hrun
    obtain ⟨x, hx⟩ := exec_readRule text (m := m)
    rw [exec_bind, hx] at hrun
    cases x with
    | error e => exact .inl ⟨e, hrun.symm⟩
    | ok source =>
      simp only at hrun
      split at hrun
      · exact .inl ⟨_, hrun.symm⟩
      · rename_i ht
        rw [exec_rule_bind] at hrun
        cases hr : m.rule? r with
        | none => exact .inl ⟨_, by rw [← hrun, hr]⟩
        | some rule =>
          have hcurrent : rule.content.type = current := by
            simpa [ObjectModel.ruleType, ObjectModel.rule, ObjectModel.live, hr, bind, Except.bind,
              pure, Except.pure] using hl
          subst hcurrent
          simp only [hr, exec_modify_bind, exec_update_bind, exec_rule_bind] at hrun
          refine .inr ⟨rule, source, _, _, rfl, ⟨(readRule_eq_ok hx).1, by simpa using ht⟩, rfl, ?_⟩
          rw [← hrun]
          generalize ObjectModel.build _ _ _ _ = built
          cases built.1.rule? r with
          | none => rfl
          | some rule => rfl

theorem exec_setSelectorText (text : String) :
    ((setSelectorText r text).exec m).2 = m ∨
      ∃ rule selectors block new, m.rule? r = some rule ∧ rule.content = .style selectors block ∧
        ((setSelectorText r text).exec m).2 =
          (m.setContent r (.style new block)).noteChanged rule.parentSheet := by
  simp only [setSelectorText, exec_rule_bind]
  cases hr : m.rule? r with
  | none => exact .inl rfl
  | some rule =>
    simp only
    cases hc : rule.content with
    | style selectors block =>
      simp only
      cases SelectorList.ofString? text with
      | none => exact .inl rfl
      | some new => exact .inr ⟨rule, selectors, block, new, rfl, hc, rfl⟩
    | media l rules => exact .inl rfl
    | importing href l sheet => exact .inl rfl
    | fontFace block => exact .inl rfl
    | page selector block => exact .inl rfl

theorem exec_updateBlock (f : DeclarationBlock → DeclarationBlock × α) :
    ((updateBlock r f).exec m).2 = m ∨ ∃ rule block, m.rule? r = some rule ∧
      ((updateBlock r f).exec m).2 =
        (m.setContent r (rule.content.withBlock block)).noteChanged rule.parentSheet := by
  simp only [updateBlock]
  cases hb : m.block r with
  | error e =>
    rw [exec_ask_bind_error hb]
    exact .inl rfl
  | ok block =>
    rw [exec_ask_bind_ok hb, exec_rule_bind]
    cases hr : m.rule? r with
    | none => exact .inl rfl
    | some rule => exact .inr ⟨rule, (f block).1, rfl, rfl⟩

theorem exec_updateMedia (o : MediaOwner) (f : MediaList → MediaList × α) :
    ((updateMedia o f).exec m).2 = m ∨
      (∃ s l, o = .sheet s ∧ ((updateMedia o f).exec m).2 =
        (m.modifySheet s fun sheet => { sheet with media := l }).note (.changed s)) ∨
      ∃ r rule l, o = .rule r ∧ m.rule? r = some rule ∧ ((updateMedia o f).exec m).2 =
        (m.setContent r (rule.content.withMedia l)).noteChanged rule.parentSheet := by
  simp only [updateMedia]
  cases hl : m.media o with
  | error e =>
    rw [exec_ask_bind_error hl]
    exact .inl rfl
  | ok l =>
    rw [exec_ask_bind_ok hl]
    cases o with
    | sheet s => exact .inr (.inl ⟨s, (f l).1, rfl, rfl⟩)
    | rule r =>
      simp only [exec_rule_bind]
      cases hr : m.rule? r with
      | none => exact .inl rfl
      | some rule => exact .inr (.inr ⟨r, rule, (f l).1, rfl, hr, rfl⟩)

/-- The model after an import got its sheet, and its old one was freed. -/
theorem exec_attachImport :
    (∃ e, (attachImport r s).exec m = (.error e, m)) ∨
      ∃ sheet rule href l old m₁, m.sheet? s = some sheet ∧ m.rule? r = some rule ∧
        rule.content = .importing href l old ∧
        (m.setContent r (.importing href l (some s))).free
          ((old.filter (· != s)).toList.map .sheet) = m₁ ∧
        (attachImport r s).exec m =
          if (m₁.sheet? s).isSome then
            (.ok (), (m₁.modifySheet s fun sheet =>
              { sheet with parentSheet := rule.parentSheet, ownerRule := some r }).noteChanged
                rule.parentSheet)
          else (.error .stale, m₁) := by
  generalize hrun : (attachImport r s).exec m = result
  rw [attachImport, exec_sheet_bind] at hrun
  cases hs : m.sheet? s with
  | none => exact .inl ⟨_, by rw [← hrun, hs]⟩
  | some sheet =>
    simp only [hs, exec_rule_bind] at hrun
    cases hr : m.rule? r with
    | none => exact .inl ⟨_, by rw [← hrun, hr]⟩
    | some rule =>
      simp only [hr] at hrun
      cases hc : rule.content with
      | importing href l old =>
        simp only [hc, exec_modify_bind, exec_sheet_bind] at hrun
        refine .inr ⟨sheet, rule, href, l, old, _, rfl, rfl, hc, rfl, ?_⟩
        rw [← hrun]
        generalize ObjectModel.free _ _ = m₁
        cases m₁.sheet? s with
        | none => rfl
        | some sheet => rfl
      | style selectors block => exact .inl ⟨_, by rw [← hrun, hc]; rfl⟩
      | media l rules => exact .inl ⟨_, by rw [← hrun, hc]; rfl⟩
      | fontFace block => exact .inl ⟨_, by rw [← hrun, hc]; rfl⟩
      | page selector block => exact .inl ⟨_, by rw [← hrun, hc]; rfl⟩

end ModelM
end WebStyle
