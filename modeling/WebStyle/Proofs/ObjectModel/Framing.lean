import WebStyle.Proofs.Document.Texts
import WebStyle.Proofs.ObjectModel.Insertion
/-!
What inserting and deleting a rule leave as it was. No rule stands inside itself, also where sheets
are imported by each other, so that every live rule has a text; it depends on the content of the
rules inside only. An insertion changes one list, and the texts of the rules around it only; a rule
that a sheet keeps when it is deleted keeps its text as well, until it is changed itself or the sheet
gives it up.
-/
set_option autoImplicit false

namespace WebStyle.ObjectModel

open Relation

variable {m m' m'' : ObjectModel} {p : Option ModelPart} {w : Option SheetId} {s : SheetId}
  {r x : RuleId} {rule : Rule} {c : RuleContainer} {list : List RuleId} {text t : String}
  {index n : Nat} {compatibility : Compatibility}

/-! ### Rules inside rules -/

/-- Whether a rule is the other one, or the other one stands inside it at some depth. -/
def Encloses (m : ObjectModel) (r x : RuleId) : Prop :=
  ReflTransGen (fun y z => z ∈ m.innerOf y) r x

theorem Reachable.ends (h : Reachable compatibility m) (r : RuleId) : m.Ends r := by
  induction h with
  | empty => exact ends_of_none (Slots.get?_empty r)
  | edit h e ih => exact (h.placed.revises e).ends_of_ends ih
  | attach h x s ih => exact (h.placed.revises_attachImport x s).ends_of_ends ih
  | takeChanges h ih => exact h.placed.revises_takeChanges.ends_of_ends ih

theorem Ends.not_inside_self (h : m.Ends r) : ¬ TransGen (fun y z => z ∈ m.innerOf y) r r := by
  induction h with
  | intro r _ ih =>
    intro hr
    obtain ⟨x, hx, hpath⟩ := TransGen.head'_iff.1 hr
    exact ih x hx (.tail' hpath hx)

theorem depthAtMost_innerOf_of_acyclic (h : ∀ r, ¬ TransGen (fun y z => z ∈ m.innerOf y) r r)
    (r : RuleId) : DepthAtMost m.innerOf m.rules.slots.size r := by
  refine depthAtMost_of_acyclic h (fun l hl hne => ?_) r
  refine Slots.length_le_size hl fun x hx => ?_
  obtain ⟨y, hy⟩ := List.exists_mem_of_ne_nil _ (hne x hx)
  exact isLive_of_mem_ownedBy (mem_innerOf.1 hy)

theorem Reachable.depthAtMost_innerOf (h : Reachable compatibility m) (r : RuleId) :
    DepthAtMost m.innerOf m.rules.slots.size r :=
  depthAtMost_innerOf_of_acyclic (fun x => (h.ends x).not_inside_self) r

/-! ### Texts -/

/-- Whether a rule is live in both models, with the same content. -/
def SameContent (m m' : ObjectModel) (r : RuleId) : Prop :=
  ∃ y y', m.rule? r = some y ∧ m'.rule? r = some y' ∧ y'.content = y.content

/-- Texts do not depend on how deep they may be, nor on other rules. -/
theorem ruleTextFuel_eq_ok {k k' n n' : Nat} (hd : DepthAtMost m.innerOf k r)
    (hd' : DepthAtMost m'.innerOf k' r) (hn : k < n) (hn' : k' < n')
    (hsame : ∀ x, m.Encloses r x → m.SameContent m' x) :
    ∃ t, m.ruleTextFuel n r = .ok t ∧ m'.ruleTextFuel n' r = .ok t := by
  induction k using Nat.strongRecOn generalizing r k' n n' with
  | ind k ih =>
    obtain ⟨n, rfl⟩ : ∃ j, n = j + 1 := ⟨n - 1, by omega⟩
    obtain ⟨n', rfl⟩ : ∃ j, n' = j + 1 := ⟨n' - 1, by omega⟩
    obtain ⟨y, y', hy, hy', hcontent⟩ := hsame r .refl
    have hinner : ∀ x ∈ y.content.children,
        ∃ t, m.ruleTextFuel n x = .ok t ∧ m'.ruleTextFuel n' x = .ok t := by
      intro x hx
      have hxr : x ∈ m.innerOf r := by rwa [innerOf_of_some hy]
      have hxr' : x ∈ m'.innerOf r := by rwa [innerOf_of_some hy', hcontent]
      obtain ⟨j, hj, hdx⟩ := hd.step hxr
      obtain ⟨j', hj', hdx'⟩ := hd'.step hxr'
      exact ih j hj hdx hdx' (by omega) (by omega) fun z hz => hsame z (.head hxr hz)
    choose! t ht ht' using hinner
    refine ⟨y.content.text (y.content.children.map t), ?_, ?_⟩
    · rw [ruleTextFuel, ObjectModel.rule, hy]
      simp only [live, bind, Except.bind, mapM_eq_ok_map ht]
      rfl
    · rw [ruleTextFuel, ObjectModel.rule, hy']
      simp only [live, bind, Except.bind, hcontent, mapM_eq_ok_map ht']
      rfl

theorem SameContent.refl (h : m.Placed) (hr : (m.rule? r).isSome) (hx : m.Encloses r x) :
    m.SameContent m x := by
  have hlive : (m.rule? x).isSome := by
    rcases ReflTransGen.cases_tail hx with rfl | ⟨y, -, hxy⟩
    · exact hr
    · exact h.isSome_of_innerOf hxy
  obtain ⟨y, hy⟩ := Option.isSome_iff_exists.1 hlive
  exact ⟨y, y, hy, hy, rfl⟩

/-- A live rule has a text, which it keeps as long as the rules inside it keep their content. -/
theorem Reachable.ruleText_eq_ok {compatibility' : Compatibility}
    (h : Reachable compatibility m) (h' : Reachable compatibility' m')
    (hsame : ∀ x, m.Encloses r x → m.SameContent m' x) :
    ∃ t, m.ruleText r = .ok t ∧ m'.ruleText r = .ok t :=
  ruleTextFuel_eq_ok (h.depthAtMost_innerOf r) (h'.depthAtMost_innerOf r) (Nat.lt_succ_self _)
    (Nat.lt_succ_self _) hsame

/-! ### Insertion -/

/-- What an insertion that goes through does. The rules that enclose the container may get other
texts; nothing else changes but the one list. -/
structure InsertsOnly (m m' : ObjectModel) (c : RuleContainer) (index : Nat) : Prop where
  gets : ∃ list o r, m.rulesOf c = .ok list ∧ index ≤ list.length ∧ m.ownerSheet c = .ok o ∧
    GetsRule m m' c o (list.insertIdx index r) r
  texts : ∀ x, (m.rule? x).isSome → (∀ y, c.rule? = some y → ¬ m.Encloses x y) →
    ∃ t, m.ruleText x = .ok t ∧ m'.ruleText x = .ok t
  undone : ∀ result m'', (ModelM.deleteRule c index).exec m' = (result, m'') →
    (∀ d, m.IsLive d.part → m''.rulesOf d = m.rulesOf d) ∧
      (result = .ok () ∨ ∃ s, m.ownerSheet c = .ok (some s) ∧ m.sheet? s = none)

theorem Reachable.insertsOnly (h : Reachable compatibility m)
    (hok : (ModelM.insertRule c text index).exec m = (.ok n, m')) : InsertsOnly m m' c index := by
  have h' : Reachable compatibility m' := by
    have hedit := h.edit (.insertRule c text index)
    rwa [Edit.apply, hok] at hedit
  obtain ⟨list, source, o, m₁, r, hins, hp, -, heq⟩ := h.placed.of_insertRule_eq_ok hok
  have hget : GetsRule m m' c o (list.insertIdx index r) r :=
    heq ▸ hp.getsRule hins.rulesOf hins.le_length
  refine ⟨⟨list, o, r, hins.rulesOf, hins.le_length, hins.ownerSheet, hget⟩, fun x hx hout => ?_,
    fun result m'' hrun => h.placed.rulesOf_insertRule_deleteRule hok hrun⟩
  refine h.ruleText_eq_ok h' fun z hz => ?_
  obtain ⟨y, -, hy, -, -⟩ := SameContent.refl h.placed hx hz
  exact ⟨y, y, hy, (hget.kept z (by rw [hy]; rfl) fun hc => hout z hc hz).trans hy, rfl⟩

/-! ### Deletion -/

/-- The models that a model becomes while neither a rule nor one inside it is changed, and a sheet
stays that keeps its rules. -/
inductive Undisturbed (s : SheetId) (r : RuleId) : ObjectModel → ObjectModel → Prop where
  | refl (m : ObjectModel) : Undisturbed s r m m
  | edit {m m' : ObjectModel} (h : Undisturbed s r m m') (e : Edit)
    (htarget : ∀ x, m'.Encloses r x → e.target? ≠ some (.rule x)) (hreplaced : e.replaced? ≠ some s)
    (hlive : ((e.apply m').sheet? s).isSome) : Undisturbed s r m (e.apply m')
  | attach {m m' : ObjectModel} (h : Undisturbed s r m m') (x : RuleId) (t : SheetId)
    (hx : ¬ m'.Encloses r x) (hlive : (((ModelM.attachImport x t).exec m').2.sheet? s).isSome) :
    Undisturbed s r m ((ModelM.attachImport x t).exec m').2
  | takeChanges {m m' : ObjectModel} (h : Undisturbed s r m m') :
    Undisturbed s r m m'.takeChanges.2

/-- Whether a sheet keeps a rule that was deleted, which has the given text. -/
structure KeepsDeleted (m : ObjectModel) (s : SheetId) (r : RuleId) (t : String) : Prop where
  deleted : ∃ sheet, m.sheet? s = some sheet ∧ r ∈ sheet.deleted
  ruleText : m.ruleText r = .ok t

theorem KeepsDeleted.isSome (h : m.KeepsDeleted s r t) (hm : m.Placed) : (m.rule? r).isSome := by
  obtain ⟨sheet, hs, hr⟩ := h.deleted
  exact hm.live (.sheet s) r (by simp [heldBy, hs, hr])

/-- What is not changed itself keeps the content of all rules inside. -/
theorem Alters.sameContent (h : Alters p w m m') (hm : m.Placed) (hr : (m.rule? r).isSome)
    (hr' : (m'.rule? r).isSome) (hp : ∀ x, m.Encloses r x → p ≠ some (.rule x))
    (hx : m.Encloses r x) : m.SameContent m' x := by
  have hsame : ∀ x, (m.rule? x).isSome → (m'.rule? x).isSome → m.Encloses r x →
      m.SameContent m' x := by
    intro x hx hx' hrx
    obtain ⟨y, hy⟩ := Option.isSome_iff_exists.1 hx
    obtain ⟨y', hy'⟩ := Option.isSome_iff_exists.1 hx'
    exact ⟨y, y', hy, hy', h.content x y y' hy hy' (hp x hrx)⟩
  induction hx with
  | refl => exact hsame r hr hr' .refl
  | @tail x z hrx hxz ih =>
    obtain ⟨y, y', hy, hy', hcontent⟩ := ih
    have hxz' : z ∈ m'.innerOf x := by
      rwa [innerOf_of_some hy', hcontent, ← innerOf_of_some hy]
    exact hsame z (hm.isSome_of_innerOf hxz) (h.placed.isSome_of_innerOf hxz') (.tail hrx hxz)

theorem KeepsDeleted.alters {compatibility' : Compatibility} (h : m.KeepsDeleted s r t)
    (hm : Reachable compatibility m) (hm' : Reachable compatibility' m') (ha : Alters p w m m')
    (hp : ∀ x, m.Encloses r x → p ≠ some (.rule x)) (hw : w ≠ some s)
    (hs : (m'.sheet? s).isSome) : m'.KeepsDeleted s r t := by
  obtain ⟨sheet, hsheet, hr⟩ := h.deleted
  obtain ⟨sheet', hsheet'⟩ := Option.isSome_iff_exists.1 hs
  have hr' : r ∈ sheet'.deleted := ha.deleted s sheet sheet' hsheet hsheet' hw hr
  have hlive : (m'.rule? r).isSome :=
    ha.placed.live (.sheet s) r (by simp [heldBy, hsheet', hr'])
  obtain ⟨t', ht, ht'⟩ := hm.ruleText_eq_ok hm' fun x hx =>
    ha.sameContent hm.placed (h.isSome hm.placed) hlive hp hx
  obtain rfl := Except.ok.inj (ht.symm.trans h.ruleText)
  exact ⟨⟨sheet', hsheet', hr'⟩, ht'⟩

/-- A deleted rule stays readable. -/
theorem KeepsDeleted.undisturbed (h : m.KeepsDeleted s r t) (hm : Reachable compatibility m)
    (hrun : Undisturbed s r m m') : Reachable compatibility m' ∧ m'.KeepsDeleted s r t := by
  induction hrun with
  | refl => exact ⟨hm, h⟩
  | edit _ e htarget hreplaced hlive ih =>
    obtain ⟨hm', h'⟩ := ih
    exact ⟨hm'.edit e, h'.alters hm' (hm'.edit e) (hm'.placed.revises e).toAlters htarget
      hreplaced hlive⟩
  | attach _ x t hx hlive ih =>
    obtain ⟨hm', h'⟩ := ih
    refine ⟨hm'.attach x t, h'.alters hm' (hm'.attach x t)
      (hm'.placed.revises_attachImport x t).toAlters (fun z hz heq => ?_) nofun hlive⟩
    exact hx (ModelPart.rule.inj (Option.some.inj heq) ▸ hz)
  | @takeChanges m' _ ih =>
    obtain ⟨hm', h'⟩ := ih
    obtain ⟨sheet, hs, -⟩ := h'.deleted
    exact ⟨hm'.takeChanges, h'.alters hm' hm'.takeChanges hm'.placed.revises_takeChanges.toAlters
      (fun _ _ heq => nomatch heq) nofun (by rw [show m'.takeChanges.2.sheet? s = _ from hs]; rfl)⟩

/-- What a deletion that goes through does where the container belongs to a sheet. The one rule
leaves its list, and the sheet keeps it readable. -/
structure DeletesOnly (m m' : ObjectModel) (c : RuleContainer) (index : Nat) (s : SheetId) :
    Prop where
  loses : ∃ list r t, m.rulesOf c = .ok list ∧ list[index]? = some r ∧
    m'.rulesOf c = .ok (list.eraseIdx index) ∧ m.ruleText r = .ok t ∧
    ∀ m'', Undisturbed s r m' m'' → m''.ruleText r = .ok t
  others : ∀ d, d ≠ c → m'.rulesOf d = m.rulesOf d

theorem Reachable.keepsDeleted (h : Reachable compatibility m) (hl : m.rulesOf c = .ok list)
    (hr : list[index]? = some r) (hx : m.ownerSheet c = .ok (some s))
    (hok : (ModelM.deleteRule c index).exec m = (.ok (), m')) :
    ∃ t, m.ruleText r = .ok t ∧ m'.KeepsDeleted s r t := by
  have h' : Reachable compatibility m' := by
    have hedit := h.edit (.deleteRule c index)
    rwa [Edit.apply, hok] at hedit
  have hrevises : Revises (some c.part) none m m' := by
    have hrevises := h.placed.revises_deleteRule c index
    rwa [hok] at hrevises
  have hmem := Placed.mem_heldBy_of_rulesOf hl (List.mem_of_getElem? hr)
  have hdeleted : ∃ sheet, m'.sheet? s = some sheet ∧ r ∈ sheet.deleted := by
    rw [ModelM.exec_deleteRule_of_some hl hr hx] at hok
    split at hok
    · rename_i hlive
      obtain ⟨sheet, hs⟩ := Option.isSome_iff_exists.1 hlive
      obtain ⟨-, rfl⟩ := Prod.mk.inj hok
      refine ⟨{ sheet with deleted := sheet.deleted ++ [r] }, ?_, by simp⟩
      refine Eq.trans sheet?_modifySheet ?_
      rw [if_pos rfl, hs]
      rfl
    · cases hok
  have hlive' : (m'.rule? r).isSome := by
    obtain ⟨sheet, hs, hr⟩ := hdeleted
    exact h'.placed.live (.sheet s) r (by simp [heldBy, hs, hr])
  -- the container is not inside the rule, which would then be inside itself
  have hout : ∀ x, m.Encloses r x → some c.part ≠ some (.rule x) := by
    intro x hrx heq
    rw [Option.some.inj heq] at hmem
    exact (h.ends r).not_inside_self (.tail' hrx hmem)
  obtain ⟨t, ht, ht'⟩ := h.ruleText_eq_ok h' fun x hx =>
    hrevises.sameContent h.placed (h.placed.live _ r hmem) hlive' hout hx
  exact ⟨t, ht, hdeleted, ht'⟩

theorem Reachable.deletesOnly (h : Reachable compatibility m)
    (hx : m.ownerSheet c = .ok (some s))
    (hok : (ModelM.deleteRule c index).exec m = (.ok (), m')) : DeletesOnly m m' c index s := by
  have h' : Reachable compatibility m' := by
    have hedit := h.edit (.deleteRule c index)
    rwa [Edit.apply, hok] at hedit
  obtain ⟨list, r, hl, hr⟩ : ∃ list r, m.rulesOf c = .ok list ∧ list[index]? = some r := by
    rcases ModelM.exec_deleteRule (m := m) c index with ⟨e, he⟩ | ⟨list, -, r, hl, -, hr, -⟩
    · cases (Prod.mk.inj (he.symm.trans hok)).1
    · exact ⟨list, r, hl, hr⟩
  obtain ⟨t, ht, hkeeps⟩ := h.keepsDeleted hl hr hx hok
  have hlists := rulesOf_deleteRule hl hx hr hok
  refine ⟨⟨list, r, t, hl, hr, (hlists c).trans (rulesOf_modifyRules hl), ht,
    fun m'' hrun => (hkeeps.undisturbed h' hrun).2.ruleText⟩, fun d hd => ?_⟩
  have hpart : d.part ≠ c.part := fun heq => hd (RuleContainer.part_injective heq)
  exact (hlists d).trans (rulesOf_congr (untouched_modifyRules hpart))

/-- Inserting a rule changes one list, and deleting it there again changes the list back. A rule
that is deleted from what belongs to a sheet stays readable. -/
theorem Reachable.insertsOnly_and_deletesOnly (h : Reachable compatibility m) :
    (∀ c text index n m', (ModelM.insertRule c text index).exec m = (.ok n, m') →
      InsertsOnly m m' c index) ∧
    ∀ c index s m', m.ownerSheet c = .ok (some s) →
      (ModelM.deleteRule c index).exec m = (.ok (), m') → DeletesOnly m m' c index s :=
  ⟨fun _ _ _ _ _ hok => h.insertsOnly hok, fun _ _ _ _ hx hok => h.deletesOnly hx hok⟩

/-- A media rule got one more rule. -/
def enlarged : ObjectModel := (Edit.insertRule (.media ⟨1, 0⟩) "q \x7b\x7d" 0).apply unfilled

/-- The media rule was deleted after that. -/
def reduced : ObjectModel := (Edit.deleteRule (.sheet ⟨0, 0⟩) 1).apply enlarged

theorem insertsOnly_and_deletesOnly_unfilled :
    InsertsOnly unfilled enlarged (.media ⟨1, 0⟩) 0 ∧
      DeletesOnly enlarged reduced (.sheet ⟨0, 0⟩) 1 ⟨0, 0⟩ := by
  have hunfilled : Reachable .full unfilled := Reachable.empty.edits _
  have henlarged : Reachable .full enlarged := hunfilled.edit _
  have hinsert : (ModelM.insertRule (.media ⟨1, 0⟩) "q \x7b\x7d" 0).exec unfilled =
      (.ok 0, enlarged) :=
    Prod.ext (by decide +kernel) rfl
  have hdelete : (ModelM.deleteRule (.sheet ⟨0, 0⟩) 1).exec enlarged = (.ok (), reduced) :=
    Prod.ext (by decide +kernel) rfl
  have hx : enlarged.ownerSheet (.sheet ⟨0, 0⟩) = .ok (some ⟨0, 0⟩) :=
    ownerSheet_sheet_eq_ok.2 ⟨by decide +kernel, rfl⟩
  exact ⟨hunfilled.insertsOnly_and_deletesOnly.1 _ _ _ _ _ hinsert,
    henlarged.insertsOnly_and_deletesOnly.2 _ _ _ _ hx hdelete⟩

end WebStyle.ObjectModel
