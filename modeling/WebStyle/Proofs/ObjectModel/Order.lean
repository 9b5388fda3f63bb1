import WebStyle.Proofs.ObjectModel.Insertion
/-!
Imports come first, in every sheet that edits lead to, and none stands in a media rule. A rule is
refused for its place just where it would break this order.
-/
set_option autoImplicit false

namespace WebStyle.ObjectModel

variable {m m' : ObjectModel} {p : Option ModelPart} {w : Option SheetId} {s : SheetId}
  {r x : RuleId} {sheet : StyleSheet} {compatibility : Compatibility} {index : Nat}

/-- Whether imports come before all other rules of their sheets, and stand in no media rule. -/
structure Ordered (m : ObjectModel) : Prop where
  sheets : ∀ s sheet, m.sheet? s = some sheet → MarkedFirst (sheet.rules.map m.isImport)
  inner : ∀ r, ∀ x ∈ m.innerOf r, m.isImport x = false

theorem Revises.isImport_eq (h : Revises p w m m') (hx : (m.rule? x).isSome)
    (hx' : (m'.rule? x).isSome) : m'.isImport x = m.isImport x := by
  obtain ⟨y, hy⟩ := Option.isSome_iff_exists.1 hx
  obtain ⟨y', hy'⟩ := Option.isSome_iff_exists.1 hx'
  rw [isImport_of_some hy, isImport_of_some hy', h.type x y y' hy hy']

theorem Placed.isSome_of_mem_rules (h : m.Placed) (hs : m.sheet? s = some sheet)
    (hx : x ∈ sheet.rules) : (m.rule? x).isSome :=
  h.live (.sheet s) x (by simp [heldBy, hs, hx])

namespace Ordered

/-- The order is kept where it is in the sheet that changes. -/
theorem revises (h : m.Ordered) (hm : m.Placed) (hr : Revises p w m m')
    (hsheet : ∀ s sheet, p = some (.sheet s) → m'.sheet? s = some sheet →
      MarkedFirst (sheet.rules.map m'.isImport)) : m'.Ordered where
  sheets s sheet hs := by
    by_cases hp : p = some (.sheet s)
    · exact hsheet s sheet hp hs
    · rcases hr.rules s sheet hs hp with hnil | ⟨y, hy, hrules⟩
      · rw [hnil]
        exact List.Pairwise.nil
      · have hsame : sheet.rules.map m'.isImport = y.rules.map m.isImport := by
          rw [hrules]
          exact List.map_congr_left fun x hx => hr.isImport_eq (hm.isSome_of_mem_rules hy hx)
            (hr.placed.isSome_of_mem_rules hs (hrules ▸ hx))
        rw [hsame]
        exact h.sheets s y hy
  inner r x hx := by
    rcases hr.inner r x hx with hx' | ⟨-, himport⟩
    · rw [hr.isImport_eq (hm.isSome_of_innerOf hx') (hr.placed.isSome_of_innerOf hx)]
      exact h.inner r x hx'
    · exact himport

/-- A rule is at a wrong place in a sheet just where it would break the order. -/
theorem misplaced?_eq_none_iff (h : m.Ordered) (hs : m.sheet? s = some sheet)
    (hi : index ≤ sheet.rules.length) (isImport : Bool) :
    m.misplaced? isImport (sheet.rules.take index) (sheet.rules.drop index) (.sheet s) = none ↔
      MarkedFirst ((sheet.rules.map m.isImport).insertIdx index isImport) := by
  rw [(h.sheets s sheet hs).insertIdx_iff (by simpa using hi), ← List.map_take, ← List.map_drop,
    List.forall_mem_map, List.forall_mem_map]
  cases isImport <;> simp [misplaced?]

theorem insertRule (h : m.Ordered) (hm : m.Placed) (c : RuleContainer) (text : String)
    (index : Nat) : ((ModelM.insertRule c text index).exec m).2.Ordered := by
  have hr := hm.revises_insertRule c text index
  generalize hrun : (ModelM.insertRule c text index).exec m = run at *
  obtain ⟨result, m'⟩ := run
  cases result with
  | error e =>
    rcases ModelM.exec_insertRule_cases (m := m) c text index with ⟨e', he⟩ | ⟨_, _, _, _, he⟩
    · obtain rfl := (Prod.mk.inj (he.symm.trans hrun)).2
      exact h
    · cases (Prod.mk.inj (he.symm.trans hrun)).1
  | ok n =>
    obtain ⟨list, source, o, m₁, r, hins, hp, himport, rfl⟩ := hm.of_insertRule_eq_ok hrun
    have hget := hp.getsRule hins.rulesOf hins.le_length
    refine h.revises hm hr fun s sheet' hc hs' => ?_
    cases c with
    | media q => cases hc
    | sheet t =>
      obtain rfl : t = s := ModelPart.sheet.inj (Option.some.inj hc)
      obtain ⟨sheet, hs, rfl⟩ := rulesOf_sheet_eq_ok.1 hins.rulesOf
      obtain ⟨y, hy, hrules⟩ := rulesOf_sheet_eq_ok.1 hget.rulesOf
      obtain rfl := Option.some.inj (hy.symm.trans hs')
      have hnew : ((m₁.modifyRules (fun l => l.take index ++ r :: l.drop index)
          (.sheet t)).noteChanged o).isImport r = (source.type == .importing) :=
        (isImport_congr (rule?_noteChanged o)).trans himport
      rw [hrules, List.map_insertIdx, hnew, List.map_congr_left fun x hx =>
        isImport_congr (hget.kept x (hm.isSome_of_mem_rules hs hx) nofun)]
      exact (h.misplaced?_eq_none_iff hs hins.le_length _).1 hins.misplaced?

theorem deleteRule (h : m.Ordered) (hm : m.Placed) (c : RuleContainer) (index : Nat) :
    ((ModelM.deleteRule c index).exec m).2.Ordered := by
  have hr := hm.revises_deleteRule c index
  refine h.revises hm hr fun s sheet' hc hs' => ?_
  cases c with
  | media q => cases hc
  | sheet t =>
    obtain rfl : t = s := ModelPart.sheet.inj (Option.some.inj hc)
    -- the rules of the sheet are among those that it had, in the same order
    have hsub : ∃ sheet, m.sheet? t = some sheet ∧ sheet'.rules.Sublist sheet.rules := by
      rcases ModelM.exec_deleteRule (m := m) (.sheet t) index with
        ⟨e, he⟩ | ⟨list, o, r, hl, hx, hr, -⟩
      · rw [he] at hs'
        exact ⟨sheet', hs', .refl _⟩
      · obtain ⟨sheet, hs, rfl⟩ := rulesOf_sheet_eq_ok.1 hl
        obtain ⟨-, rfl⟩ := ownerSheet_sheet_eq_ok.1 hx
        have hrules := (rulesOf_deleteRule hl hx hr rfl (.sheet t)).trans (rulesOf_modifyRules hl)
        obtain ⟨y, hy, hrules⟩ := rulesOf_sheet_eq_ok.1 hrules
        obtain rfl := Option.some.inj (hy.symm.trans hs')
        exact ⟨sheet, hs, hrules ▸ List.eraseIdx_sublist _ _⟩
    obtain ⟨sheet, hs, hsub⟩ := hsub
    have hmarks : sheet'.rules.map _ = sheet'.rules.map m.isImport :=
      List.map_congr_left fun x hx => hr.isImport_eq
        (hm.isSome_of_mem_rules hs (hsub.subset hx)) (hr.placed.isSome_of_mem_rules hs' hx)
    rw [hmarks]
    exact (h.sheets t sheet hs).sublist (hsub.map m.isImport)

theorem replaceRules (h : m.Ordered) (hm : m.Placed) (s : SheetId) (text : String) :
    ((ModelM.replaceRules s text).exec m).2.Ordered := by
  have hr := hm.revises_replaceRules s text
  refine h.revises hm hr fun t sheet' ht hs' => ?_
  obtain rfl : s = t := ModelPart.sheet.inj (Option.some.inj ht)
  cases hs : m.sheet? s with
  | none =>
    rw [ModelM.exec_replaceRules_of_none hs] at hs' ⊢
    exact h.sheets s sheet' hs'
  | some sheet =>
    have hread := SheetSource.inOrder_ofString text
    obtain ⟨-, hmarks⟩ := plants_adoptAll (hm.withoutRules hs) (some s) none hread.nested
    rw [ModelM.exec_replaceRules_of_some hs rfl] at hs' ⊢
    split at hs'
    · rename_i hlive
      rw [if_pos hlive]
      obtain ⟨y, hy, rfl⟩ := exists_sheet_of_modifySheet hs'
      rw [if_pos rfl]
      have hfirst : MarkedFirst (((SheetSource.ofString text).rules.filter
          (m.withoutRules s sheet).compatibility.keeps).map fun source =>
            source.type == .importing) :=
        hread.first.sublist (List.filter_sublist.map _)
      rw [← hmarks] at hfirst
      exact hfirst
    · rename_i hdead
      simp only at hs'
      simp [hs'] at hdead

theorem edit (h : m.Ordered) (hm : m.Placed) (e : Edit) : (e.apply m).Ordered := by
  cases e with
  | insertRule c text index => exact h.insertRule hm c text index
  | deleteRule c index => exact h.deleteRule hm c index
  | replaceRules s text => exact h.replaceRules hm s text
  | createSheet | setOwner | setDisabled | removeSheet | setRuleText | setSelectorText
    | updateBlock =>
    refine h.revises hm (hm.revises _) fun _ _ hp => ?_
    cases hp
  | updateMedia o f =>
    refine h.revises hm (hm.revises _) fun _ _ hp => ?_
    cases o <;> cases hp

end Ordered

theorem Reachable.ordered (h : Reachable compatibility m) : m.Ordered := by
  induction h with
  | empty =>
    have hsheet : ∀ s, (ObjectModel.empty compatibility).sheet? s = none := Slots.get?_empty
    have hrule : ∀ r, (ObjectModel.empty compatibility).rule? r = none := Slots.get?_empty
    exact ⟨by simp [hsheet], by simp [innerOf, hrule]⟩
  | edit h e ih => exact ih.edit h.placed e
  | attach h r s ih =>
    exact ih.revises h.placed (h.placed.revises_attachImport r s) (by simp)
  | takeChanges h ih =>
    exact ih.revises h.placed h.placed.revises_takeChanges (by simp)

theorem refusal?_insertRule {list : List RuleId} {c : RuleContainer} {text : String}
    {source : RuleSource} {o : Option SheetId} (hl : m.rulesOf c = .ok list)
    (hi : index ≤ list.length) (hs : RuleSource.ofString text = .ok source)
    (hk : m.compatibility.keeps source) (hx : m.ownerSheet c = .ok o) :
    m.refusal? (ModelM.insertRule c text index) = (m.misplaced? (source.type == .importing)
      (list.take index) (list.drop index) c).map .hierarchy := by
  rw [refusal?, ModelM.exec_insertRule_of_ok hl hi hs hk hx]
  cases m.misplaced? (source.type == .importing) (list.take index) (list.drop index) c <;> rfl

/-- Imports come first whatever was done, and a rule that could be inserted into a sheet is refused
for its place just where it would come between imports or an import after other rules. -/
theorem Reachable.ordered_and_guarded (h : Reachable compatibility m) :
    m.Ordered ∧ ∀ s sheet text index source, m.sheet? s = some sheet →
      index ≤ sheet.rules.length → RuleSource.ofString text = .ok source →
      m.compatibility.keeps source →
      ((∃ cause, m.refusal? (ModelM.insertRule (.sheet s) text index) = some (.hierarchy cause)) ↔
        ¬ MarkedFirst ((sheet.rules.map m.isImport).insertIdx index
          (source.type == .importing))) := by
  refine ⟨h.ordered, fun s sheet text index source hs hi hsource hk => ?_⟩
  have hl : m.rulesOf (.sheet s) = .ok sheet.rules := rulesOf_sheet_eq_ok.2 ⟨sheet, hs, rfl⟩
  have hx : m.ownerSheet (.sheet s) = .ok (some s) :=
    ownerSheet_sheet_eq_ok.2 ⟨by rw [hs]; rfl, rfl⟩
  rw [refusal?_insertRule hl hi hsource hk hx, ← h.ordered.misplaced?_eq_none_iff hs hi]
  cases m.misplaced? (source.type == .importing) (sheet.rules.take index) (sheet.rules.drop index)
    (.sheet s) <;> simp

/-- After another rule an import is refused, but not right after the first one. -/
theorem insertRule_unfilled_guarded : unfilled.Ordered ∧
    (∃ cause, unfilled.refusal? (ModelM.insertRule (.sheet ⟨0, 0⟩) "@import 'b';" 2) =
      some (.hierarchy cause)) ∧
    ¬ ∃ cause, unfilled.refusal? (ModelM.insertRule (.sheet ⟨0, 0⟩) "@import 'b';" 1) =
      some (.hierarchy cause) := by
  have hreachable : Reachable .full unfilled := Reachable.empty.edits _
  obtain ⟨hordered, hguarded⟩ := hreachable.ordered_and_guarded
  have hread : ((RuleSource.ofString "@import 'b';").toOption.any fun source =>
      unfilled.compatibility.keeps source && source.type == .importing) = true := by
    decide +kernel
  have hmarks : (unfilled.sheet? ⟨0, 0⟩).map (fun sheet => sheet.rules.map unfilled.isImport) =
      some [true, false] := by
    decide +kernel
  obtain ⟨sheet, hs, hmarks⟩ := Option.map_eq_some_iff.1 hmarks
  have hlength : sheet.rules.length = 2 := by simpa using congrArg List.length hmarks
  cases hsource : RuleSource.ofString "@import 'b';" with
  | error e => simp [hsource, Except.toOption] at hread
  | ok source =>
    rw [hsource] at hread
    obtain ⟨hk, htype⟩ : unfilled.compatibility.keeps source ∧ source.type = .importing := by
      simpa [Except.toOption] using hread
    have hiff := fun index hi => hguarded ⟨0, 0⟩ sheet _ index source hs hi hsource hk
    simp only [hmarks, htype] at hiff
    exact ⟨hordered, (hiff 2 (by omega)).2 (by decide),
      fun hrefused => (hiff 1 (by omega)).1 hrefused (by decide)⟩

end WebStyle.ObjectModel
