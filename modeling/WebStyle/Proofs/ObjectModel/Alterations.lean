import WebStyle.Proofs.ObjectModel.Additions
import WebStyle.Proofs.ObjectModel.Deallocation
/-!
What edits change. Each is about the rules of one sheet or about one rule at most; all others stay
what they were, unless they are freed. Rules that come in were not there before.
-/
set_option autoImplicit false

namespace WebStyle.ObjectModel

variable {m m' m'' : ObjectModel} {p : Option ModelPart} {w : Option SheetId} {s : SheetId}
  {r x : RuleId} {sheet : StyleSheet} {rule : Rule} {c : RuleContainer} {list ids : List RuleId}

/-- What a change does that is about one part at most, and that takes what was deleted from at most
one sheet. -/
structure Alters (p : Option ModelPart) (w : Option SheetId) (m m' : ObjectModel) : Prop where
  placed : m'.Placed
  content : ∀ x y y', m.rule? x = some y → m'.rule? x = some y' → p ≠ some (.rule x) →
    y'.content = y.content
  inner : ∀ x, ∀ z ∈ m'.innerOf x, z ∈ m.innerOf x ∨ m.rule? z = none ∧ m'.isImport z = false
  ends : ∀ x, m.rule? x = none → m'.Ends x
  rules : ∀ s y', m'.sheet? s = some y' → p ≠ some (.sheet s) →
    y'.rules = [] ∨ ∃ y, m.sheet? s = some y ∧ y'.rules = y.rules
  deleted : ∀ s y y', m.sheet? s = some y → m'.sheet? s = some y' → w ≠ some s →
    y.deleted ⊆ y'.deleted

/-- A change that leaves rules of the types that they are of. -/
structure Revises (p : Option ModelPart) (w : Option SheetId) (m m' : ObjectModel) : Prop
    extends Alters p w m m' where
  type : ∀ x y y', m.rule? x = some y → m'.rule? x = some y' → y'.content.type = y.content.type

namespace Alters

/-- A change that is about nothing may be said to be about anything. -/
theorem of_none (h : Alters none none m m') (p : Option ModelPart) (w : Option SheetId) :
    Alters p w m m' :=
  ⟨h.placed, fun x y y' hy hy' _ => h.content x y y' hy hy' nofun, h.inner, h.ends,
    fun s y' hs _ => h.rules s y' hs nofun, fun s y y' hs hs' _ => h.deleted s y y' hs hs' nofun⟩

/-- What ends goes on to end. -/
theorem ends_of_ends (h : Alters p w m m') (hx : m.Ends x) : m'.Ends x := by
  induction hx with
  | intro x _ ih =>
    refine .intro x fun y hy => ?_
    rcases h.inner x y hy with hy | ⟨hy, -⟩
    · exact ih y hy
    · exact h.ends y hy

/-- A change that only takes away. -/
theorem of_lookups (hp : m'.Placed)
    (hrule : ∀ x y', m'.rule? x = some y' → ∃ y, m.rule? x = some y ∧
      y'.content.children ⊆ y.content.children ∧ (p ≠ some (.rule x) → y'.content = y.content))
    (hsheet : ∀ s y', m'.sheet? s = some y' → ∃ y, m.sheet? s = some y ∧
      (p ≠ some (.sheet s) → y'.rules = y.rules) ∧ (w ≠ some s → y.deleted ⊆ y'.deleted)) :
    Alters p w m m' where
  placed := hp
  content x y y' hy hy' hx := by
    obtain ⟨y₀, hy₀, -, hcontent⟩ := hrule x y' hy'
    obtain rfl := Option.some.inj (hy.symm.trans hy₀)
    exact hcontent hx
  inner x z hz := by
    obtain ⟨y', hy'⟩ : ∃ y', m'.rule? x = some y' := by
      cases hx : m'.rule? x with
      | none => simp [innerOf_of_none hx] at hz
      | some y' => exact ⟨y', rfl⟩
    obtain ⟨y, hy, hsub, -⟩ := hrule x y' hy'
    rw [innerOf_of_some hy'] at hz
    rw [innerOf_of_some hy]
    exact .inl (hsub hz)
  ends x hx := by
    refine ends_of_none ?_
    cases hx' : m'.rule? x with
    | none => rfl
    | some y' =>
      obtain ⟨y, hy, -⟩ := hrule x y' hx'
      simp [hx] at hy
  rules s y' hs hne := by
    obtain ⟨y, hy, hrules, -⟩ := hsheet s y' hs
    exact .inr ⟨y, hy, hrules hne⟩
  deleted s y y' hs hs' hne := by
    obtain ⟨y₀, hy₀, -, hdeleted⟩ := hsheet s y' hs'
    obtain rfl := Option.some.inj (hs.symm.trans hy₀)
    exact hdeleted hne

/-- One change after another, where no sheet and nothing that is gone comes back. -/
theorem trans (h : Alters p w m m') (h' : Alters p w m' m'')
    (hp : ∀ r, p = some (.rule r) → (m.rule? r).isSome)
    (hgone : ∀ x, (m.rule? x).isSome → m'.rule? x = none → m''.rule? x = none)
    (hsheets : ∀ s, (m''.sheet? s).isSome → (m'.sheet? s).isSome) : Alters p w m m'' where
  placed := h'.placed
  content x y y'' hy hy'' hx := by
    cases hy' : m'.rule? x with
    | none => simp [hgone x (by rw [hy]; rfl) hy'] at hy''
    | some y' => exact (h'.content x y' y'' hy' hy'' hx).trans (h.content x y y' hy hy' hx)
  inner x z hz := by
    have hlive := h'.placed.isSome_of_innerOf hz
    rcases h'.inner x z hz with hz' | ⟨hz', himport⟩
    · refine (h.inner x z hz').imp id fun ⟨hnew, himport⟩ => ⟨hnew, ?_⟩
      obtain ⟨y', hy'⟩ := Option.isSome_iff_exists.1 (h.placed.isSome_of_innerOf hz')
      obtain ⟨y'', hy''⟩ := Option.isSome_iff_exists.1 hlive
      have hne : p ≠ some (.rule z) := by
        intro hpz
        have := hp z hpz
        simp [hnew] at this
      rw [isImport_of_some hy'] at himport
      rw [isImport_of_some hy'', h'.content z y' y'' hy' hy'' hne, himport]
    · refine .inr ⟨?_, himport⟩
      by_contra hne
      rw [hgone z (Option.isSome_iff_ne_none.2 hne) hz'] at hlive
      cases hlive
  ends x hx := by
    by_cases hx' : m'.rule? x = none
    · exact h'.ends x hx'
    · exact h'.ends_of_ends (h.ends x hx)
  rules s y'' hs hne := by
    rcases h'.rules s y'' hs hne with hnil | ⟨y', hy', hrules⟩
    · exact .inl hnil
    · rw [hrules]
      exact h.rules s y' hy' hne
  deleted s y y'' hs hs'' hne := by
    obtain ⟨y', hy'⟩ := Option.isSome_iff_exists.1 (hsheets s (by rw [hs'']; rfl))
    exact List.Subset.trans (h.deleted s y y' hs hy' hne) (h'.deleted s y' y'' hy' hs'' hne)

end Alters

theorem Alters.revises (h : Alters p w m m') (htype : ∀ r y y', p = some (.rule r) →
    m.rule? r = some y → m'.rule? r = some y' → y'.content.type = y.content.type) :
    Revises p w m m' where
  toAlters := h
  type x y y' hy hy' := by
    by_cases hx : p = some (.rule x)
    · exact htype x y y' hx hy hy'
    · rw [h.content x y y' hy hy' hx]

/-! ### Taking away -/

/-- What a change leaves that adds no rules. -/
structure Prunes (p : Option ModelPart) (w : Option SheetId) (m m' : ObjectModel) : Prop where
  rule : ∀ x y', m'.rule? x = some y' → ∃ y, m.rule? x = some y ∧
    y'.content.type = y.content.type ∧ y'.content.children ⊆ y.content.children ∧
    (p ≠ some (.rule x) → y'.content = y.content)
  sheet : ∀ s y', m'.sheet? s = some y' → ∃ y, m.sheet? s = some y ∧
    (p ≠ some (.sheet s) → y'.rules = y.rules) ∧ (w ≠ some s → y.deleted ⊆ y'.deleted)

namespace Prunes

theorem revises (h : Prunes p w m m') (hp : m'.Placed) : Revises p w m m' where
  toAlters := .of_lookups hp (fun x y' hy' =>
    let ⟨y, hy, _, hchildren, hcontent⟩ := h.rule x y' hy'
    ⟨y, hy, hchildren, hcontent⟩) h.sheet
  type x y y' hy hy' := by
    obtain ⟨y₀, hy₀, htype, -⟩ := h.rule x y' hy'
    obtain rfl := Option.some.inj (hy.symm.trans hy₀)
    exact htype

theorem of_frees {ps : List ModelPart} (h : m.Frees m' ps) : Prunes p w m m' where
  rule _ y' hy' := ⟨y', h.rule?_eq_some hy', rfl, fun _ hx => hx, fun _ => rfl⟩
  sheet _ y' hy' := ⟨y', h.sheet?_eq_some hy', fun _ => rfl, fun _ _ hx => hx⟩

theorem free (m : ObjectModel) (ps : List ModelPart) : Prunes p w m (m.free ps) :=
  of_frees (m.frees_free ps)

theorem of_eq (hs : m'.sheets = m.sheets) (hr : m'.rules = m.rules) : Prunes p w m m' where
  rule x y' hy' := ⟨y', by rwa [rule?, ← hr], rfl, fun _ hx => hx, fun _ => rfl⟩
  sheet s y' hy' := ⟨y', by rwa [sheet?, ← hs], fun _ => rfl, fun _ _ hx => hx⟩

theorem refl (m : ObjectModel) : Prunes p w m m := of_eq rfl rfl

theorem trans (h : Prunes p w m m') (h' : Prunes p w m' m'') : Prunes p w m m'' where
  rule x y'' hy'' := by
    obtain ⟨y', hy', htype', hsub', hcontent'⟩ := h'.rule x y'' hy''
    obtain ⟨y, hy, htype, hsub, hcontent⟩ := h.rule x y' hy'
    exact ⟨y, hy, htype'.trans htype, List.Subset.trans hsub' hsub,
      fun hx => (hcontent' hx).trans (hcontent hx)⟩
  sheet s y'' hy'' := by
    obtain ⟨y', hy', hrules', hdeleted'⟩ := h'.sheet s y'' hy''
    obtain ⟨y, hy, hrules, hdeleted⟩ := h.sheet s y' hy'
    exact ⟨y, hy, fun hs => (hrules' hs).trans (hrules hs),
      fun hs => List.Subset.trans (hdeleted hs) (hdeleted' hs)⟩

theorem noteChanged (h : Prunes p w m m') (x : Option SheetId) :
    Prunes p w m (m'.noteChanged x) := by
  refine h.trans ?_
  cases x with
  | none => exact .refl _
  | some s => exact .of_eq rfl rfl

theorem note (h : Prunes p w m m') (c : Change) : Prunes p w m (m'.note c) :=
  h.trans (.of_eq rfl rfl)

theorem orphan (m : ObjectModel) (r : RuleId) : Prunes p w m (m.orphan r) where
  rule x y' hy' := by
    obtain ⟨y, hy, hcontent, -⟩ := (orphans_orphan m r).rule x y' hy'
    exact ⟨y, hy, by rw [hcontent], by rw [hcontent]; exact fun _ hx => hx, fun _ => hcontent⟩
  sheet s y' hy' := by
    rw [(orphans_orphan m r).sheet?_eq] at hy'
    exact ⟨y', hy', fun _ => rfl, fun _ _ hx => hx⟩

theorem modifySheet {f : StyleSheet → StyleSheet}
    (hr : ∀ y, p ≠ some (.sheet s) → (f y).rules = y.rules)
    (hd : ∀ y, w ≠ some s → y.deleted ⊆ (f y).deleted) : Prunes p w m (m.modifySheet s f) where
  rule x y' hy' := ⟨y', hy', rfl, fun _ hx => hx, fun _ => rfl⟩
  sheet t y' hy' := by
    obtain ⟨y, hy, rfl⟩ := exists_sheet_of_modifySheet hy'
    refine ⟨y, hy, ?_⟩
    split
    · rename_i ht
      subst ht
      exact ⟨hr y, hd y⟩
    · exact ⟨fun _ => rfl, fun _ _ hx => hx⟩

theorem setContent {content : RuleContent} (hr : m.rule? r = some rule)
    (htype : content.type = rule.content.type) (hsub : content.children ⊆ rule.content.children) :
    Prunes (some (.rule r)) w m (m.setContent r content) where
  rule x y' hy' := by
    obtain ⟨y, hy, rfl⟩ := exists_rule_of_modifyRule hy'
    refine ⟨y, hy, ?_⟩
    split
    · rename_i hx
      subst hx
      obtain rfl := Option.some.inj (hr.symm.trans hy)
      exact ⟨htype, hsub, fun hne => absurd rfl hne⟩
    · exact ⟨rfl, fun _ hx => hx, fun _ => rfl⟩
  sheet s y' hy' := ⟨y', hy', fun _ => rfl, fun _ _ hx => hx⟩

theorem modifyRules (hl : m.rulesOf c = .ok list) {f : List RuleId → List RuleId}
    (hf : f list ⊆ list) : Prunes (some c.part) w m (m.modifyRules f c) := by
  cases c with
  | sheet s => exact .modifySheet (fun _ hne => absurd rfl hne) fun _ _ _ hx => hx
  | media r =>
    obtain ⟨rule, l, hr, hc⟩ := rulesOf_media_eq_ok.1 hl
    rw [modifyRules_media hr hc]
    exact .setContent hr (by rw [hc]; rfl) (by rw [hc]; exact hf)

end Prunes

/-! ### Putting in -/

theorem rule?_modifyRules_of_ne {f : List RuleId → List RuleId} (h : some c.part ≠ some (.rule x)) :
    (m.modifyRules f c).rule? x = m.rule? x := by
  cases c with
  | sheet s => rfl
  | media r =>
    have hne : r ≠ x := fun heq => h (by rw [heq]; rfl)
    rw [modifyRules, rule?_modifyRule, if_neg hne]

theorem rule?_noteChanged (y : Option SheetId) : (m.noteChanged y).rule? x = m.rule? x := by
  cases y <;> rfl

theorem sheet?_noteChanged (y : Option SheetId) : (m.noteChanged y).sheet? s = m.sheet? s := by
  cases y <;> rfl

/-- New rules are put into one list. -/
theorem Plants.alters {o : Option SheetId} {parent : Option RuleId}
    (h : Plants o parent m m' ids) (hp : m''.Placed)
    (hrule : ∀ x, p ≠ some (.rule x) → m''.rule? x = m'.rule? x)
    (hinner : ∀ r, p = some (.rule r) → (m.rule? r).isSome ∧
      ∀ z ∈ m''.innerOf r, z ∈ m.innerOf r ∨ z ∈ ids ∧ m'.isImport z = false)
    (hsheet : ∀ s y', m''.sheet? s = some y' → ∃ y, m.sheet? s = some y ∧
      (p ≠ some (.sheet s) → y'.rules = y.rules) ∧ y.deleted ⊆ y'.deleted) :
    Alters p w m m'' := by
  have hne : ∀ {x}, m.rule? x = Option.none → p ≠ some (.rule x) := by
    intro x hx hpx
    have := (hinner x hpx).1
    simp [hx] at this
  refine ⟨hp, fun x y y' hy hy' hx => ?_, fun x z hz => ?_, fun x hx => ?_, fun s y' hs hne => ?_,
    fun s y y' hs hs' _ => ?_⟩
  · rw [hrule x hx, h.stocks.kept x (by rw [hy]; rfl), hy] at hy'
    rw [Option.some.inj hy']
  · by_cases hx : p = some (.rule x)
    · refine ((hinner x hx).2 z hz).imp id fun ⟨hz, himport⟩ => ?_
      have hnew := h.stocks.fresh z hz
      exact ⟨hnew, (isImport_congr (hrule z (hne hnew))).trans himport⟩
    · rw [innerOf_congr (hrule x hx)] at hz
      by_cases hlive : (m.rule? x).isSome
      · rw [innerOf_congr (h.stocks.kept x hlive)] at hz
        exact .inl hz
      · obtain ⟨hnew, himport⟩ := h.inner x (by simpa using hlive) z hz
        exact .inr ⟨hnew, (isImport_congr (hrule z (hne hnew))).trans himport⟩
  · exact (h.ends x hx).of_same (P := fun x => m.rule? x = Option.none) hx
      (fun y hy => innerOf_congr (hrule y (hne hy))) fun y hy z hz => (h.inner y hy z hz).1
  · obtain ⟨y, hy, hrules, -⟩ := hsheet s y' hs
    exact .inr ⟨y, hy, hrules hne⟩
  · obtain ⟨y₀, hy₀, -, hdeleted⟩ := hsheet s y' hs'
    obtain rfl := Option.some.inj (hs.symm.trans hy₀)
    exact hdeleted

/-- Rules that are added and put nowhere. -/
theorem Plants.alters_self {o : Option SheetId} {parent : Option RuleId}
    (h : Plants o parent m m' ids) : Alters p w m m' := by
  have halters : Alters Option.none Option.none m m' :=
    h.alters h.stocks.placed (fun _ _ => rfl) (by simp) fun t y hy =>
      ⟨y, by rwa [sheet?, ← h.stocks.sheets], fun _ => rfl, fun _ hx => hx⟩
  exact halters.of_none p w

/-- Rules that are added as what a rule holds. -/
theorem Plants.alters_content {o : Option SheetId} {parent : Option RuleId}
    {content : RuleContent} (h : Plants o parent m m' content.children)
    (himport : ∀ z ∈ content.children, m'.isImport z = false) (hr : (m.rule? r).isSome)
    (hp : m''.Placed) (hself : m''.rule? r = some { rule with content })
    (hrule : ∀ x, r ≠ x → m''.rule? x = m'.rule? x) (hsheet : ∀ t, m''.sheet? t = m.sheet? t) :
    Alters (some (.rule r)) w m m'' := by
  refine h.alters hp (fun x hx => hrule x fun heq => hx (by rw [heq])) (fun x hx => ?_)
    fun t y hy => ⟨y, (hsheet t).symm.trans hy, fun _ => rfl, fun _ hx => hx⟩
  obtain rfl : r = x := ModelPart.rule.inj (Option.some.inj hx)
  refine ⟨hr, fun z hz => ?_⟩
  rw [innerOf_of_some hself] at hz
  exact .inr ⟨hz, himport z hz⟩

/-- What was freed does not come back with rules that are added. -/
theorem rule?_eq_none_of_freed {ps : List ModelPart}
    (hretired : ∀ x, (m.free ps).rules.Retired x → m'.rules.Retired x)
    (hx : (m.rule? x).isSome) (hfreed : (m.free ps).rule? x = none) : m'.rule? x = none := by
  obtain ⟨y, hy⟩ := Option.isSome_iff_exists.1 hx
  exact (hretired x (vacated_of_freed hy hfreed).retired).get?_eq_none

namespace Placed

theorem revises_createSheet (h : m.Placed) (href : Option String) (media : String)
    (origin : Origin) : Revises none none m (m.createSheet href media origin).1 := by
  have hlookup : ∀ x, (m.createSheet href media origin).1.sheet? x =
      if x = (m.createSheet href media origin).2 then some (.new href (.ofString media) origin)
      else m.sheet? x := h.sheets.get?_insert _
  have hfresh : m.sheet? (m.createSheet href media origin).2 = none := h.sheets.get?_fresh _
  have hrule : ∀ x, (m.createSheet href media origin).1.rule? x = m.rule? x := fun _ => rfl
  refine ⟨⟨h.createSheet href media origin, fun x y y' hy hy' _ => ?_, fun x z hz => .inl hz,
    fun x hx => ends_of_none hx, fun s y' hs _ => ?_, fun s y y' hs hs' _ => ?_⟩,
    fun x y y' hy hy' => ?_⟩
  · obtain rfl := Option.some.inj (hy.symm.trans hy')
    rfl
  · rw [hlookup] at hs
    split at hs
    · obtain rfl := Option.some.inj hs
      exact .inl rfl
    · exact .inr ⟨y', hs, rfl⟩
  · rw [hlookup, if_neg (by rintro rfl; simp [hfresh] at hs), hs] at hs'
    obtain rfl := Option.some.inj hs'
    exact fun _ hx => hx
  · obtain rfl := Option.some.inj (hy.symm.trans hy')
    rfl

/-- One rule is added and put into the list of its container. -/
theorem exists_planted (h : m.Placed) {text : String} {index : Nat} {source : RuleSource}
    {o : Option SheetId} (hins : ModelM.Inserts m c text index list source o) :
    ∃ m₁ r, Plants o c.rule? m m₁ [r] ∧ m₁.isImport r = (source.type == .importing) ∧
      m.withRule o c source index =
        (m₁.modifyRules (fun l => l.take index ++ r :: l.drop index) c).noteChanged o := by
  have hnested : ∀ source' ∈ [source], source'.WellNested := by
    simpa using RuleSource.wellNested_ofString hins.ofString
  obtain ⟨hp, hmarks⟩ := plants_adoptAll h o c.rule? hnested
  rw [List.filter_cons_of_pos hins.keeps, List.filter_nil] at hmarks
  rw [withRule]
  generalize m.adoptAll o c.rule? [source] = result at *
  obtain ⟨m₁, ids⟩ := result
  obtain ⟨r, rest, rfl, hr, hrest⟩ := List.map_eq_cons_iff.1 hmarks
  obtain rfl := List.map_eq_nil_iff.1 hrest
  simp only [List.append_assoc, List.singleton_append]
  exact ⟨m₁, r, hp, hr, rfl⟩

theorem revises_insertRule (h : m.Placed) (c : RuleContainer) (text : String) (index : Nat) :
    Revises (some c.part) none m ((ModelM.insertRule c text index).exec m).2 := by
  have hplaced := h.insertRule c text index
  rcases ModelM.exec_insertRule_cases (m := m) c text index with
    ⟨e, he⟩ | ⟨list, source, o, hins, he⟩
  · rw [he]
    exact (Prunes.refl m).revises h
  obtain ⟨m₁, r, hp, himport, heq⟩ := h.exists_planted hins
  rw [he, heq] at hplaced ⊢
  simp only at hplaced ⊢
  have hrule : ∀ x, some c.part ≠ some (.rule x) → ((m₁.modifyRules (fun l =>
      l.take index ++ r :: l.drop index) c).noteChanged o).rule? x = m₁.rule? x := fun x hx =>
    (rule?_noteChanged o).trans (rule?_modifyRules_of_ne hx)
  cases c with
  | sheet s =>
    have hne : ∀ x, some (RuleContainer.sheet s).part ≠ some (.rule x) := by
      simp [RuleContainer.part]
    refine (hp.alters hplaced hrule (fun x hx => absurd hx (hne x)) fun t y' hy' => ?_).revises
      fun x _ _ hx => absurd hx (hne x)
    rw [sheet?_noteChanged] at hy'
    obtain ⟨y, hy, rfl⟩ := exists_sheet_of_modifySheet hy'
    rw [sheet?, hp.stocks.sheets] at hy
    refine ⟨y, hy, fun ht => ?_, ?_⟩
    · rw [if_neg fun heq => ht (by rw [heq]; rfl)]
    · split <;> exact fun _ hx => hx
  | media q =>
    obtain ⟨rule, l, hq, hc⟩ := rulesOf_media_eq_ok.1 hins.rulesOf
    have hq₁ : m₁.rule? q = some rule := by rw [hp.stocks.kept q (by rw [hq]; rfl), hq]
    have hlookup : ((m₁.modifyRules (fun l => l.take index ++ r :: l.drop index)
        (.media q)).noteChanged o).rule? q =
          some { rule with content := .media l (list.take index ++ r :: list.drop index) } := by
      rw [rule?_noteChanged, modifyRules_media hq₁ hc, rule?_setContent, if_pos rfl, hq₁]
      rfl
    refine (hp.alters hplaced hrule (fun x hx => ?_) fun t y' hy' => ?_).revises
      fun x y y' hx hy hy' => ?_
    · obtain rfl : q = x := ModelPart.rule.inj (Option.some.inj hx)
      refine ⟨by rw [hq]; rfl, fun z hz => ?_⟩
      rw [innerOf_of_some hlookup] at hz
      rw [innerOf_of_some hq, hc]
      rcases List.mem_append.1 hz with hz | hz
      · exact .inl (List.mem_of_mem_take hz)
      · rcases List.mem_cons.1 hz with rfl | hz
        · refine .inr ⟨List.mem_singleton_self _, himport.trans ?_⟩
          simpa [misplaced?] using hins.misplaced?
        · exact .inl (List.mem_of_mem_drop hz)
    · rw [sheet?_noteChanged, modifyRules_media hq₁ hc, sheet?_setContent, sheet?,
        hp.stocks.sheets] at hy'
      exact ⟨y', hy', fun _ => rfl, fun _ hx => hx⟩
    · obtain rfl : q = x := ModelPart.rule.inj (Option.some.inj hx)
      obtain rfl := Option.some.inj (hq.symm.trans hy)
      obtain rfl := Option.some.inj (hlookup.symm.trans hy')
      rw [hc]
      rfl

theorem revises_deleteRule (h : m.Placed) (c : RuleContainer) (index : Nat) :
    Revises (some c.part) none m ((ModelM.deleteRule c index).exec m).2 := by
  refine Prunes.revises ?_ (h.deleteRule c index)
  rcases ModelM.exec_deleteRule (m := m) c index with ⟨e, he⟩ | ⟨list, o, r, hl, -, -, he⟩
  · rw [he]
    exact .refl m
  have herased : Prunes (some c.part) none m (m.modifyRules (·.eraseIdx index) c) :=
    .modifyRules hl fun _ hx => List.mem_of_mem_eraseIdx hx
  rw [he]
  cases o with
  | none => exact herased.trans (.free _ _)
  | some s =>
    have horphan := herased.trans (.orphan _ r)
    simp only
    split
    · exact (horphan.trans (.modifySheet (f := fun y => { y with deleted := y.deleted ++ [r] })
        (fun _ _ => rfl) fun y _ => List.subset_append_left y.deleted [r])).note _
    · exact horphan

theorem revises_replaceRules (h : m.Placed) (s : SheetId) (text : String) :
    Revises (some (.sheet s)) (some s) m ((ModelM.replaceRules s text).exec m).2 := by
  have hplaced := h.replaceRules s text
  cases hs : m.sheet? s with
  | none =>
    rw [ModelM.exec_replaceRules_of_none hs]
    exact (Prunes.refl m).revises h
  | some sheet =>
    have hclear := h.withoutRules hs
    have hprunes : Prunes (some (.sheet s)) (some s) m (m.withoutRules s sheet) :=
      .trans (.modifySheet (fun _ hne => absurd rfl hne) fun _ hne => absurd rfl hne) (.free _ _)
    obtain ⟨hp, -⟩ := plants_adoptAll hclear (some s) none
      (SheetSource.inOrder_ofString text).nested
    have hretired := fun x => retired_adoptAll (m := m.withoutRules s sheet) (x := x) (some s) none
      (SheetSource.ofString text).rules
    rw [ModelM.exec_replaceRules_of_some hs rfl] at hplaced ⊢
    generalize (m.withoutRules s sheet).adoptAll (some s) none (SheetSource.ofString text).rules =
      result at *
    obtain ⟨m₂, ids⟩ := result
    simp only at hp hretired hplaced ⊢
    have hsheet : ∀ t, m₂.sheet? t = (m.withoutRules s sheet).sheet? t := fun t => by
      rw [sheet?, sheet?, hp.stocks.sheets]
    have hgone : ∀ x, (m.rule? x).isSome → (m.withoutRules s sheet).rule? x = none →
        m₂.rule? x = none := fun _ => rule?_eq_none_of_freed hretired
    have halters := (hprunes.revises hclear).toAlters
    refine Alters.revises ?_ (by simp)
    split at hplaced <;> rename_i hlive
    · rw [if_pos hlive]
      refine halters.trans (hp.alters hplaced (fun _ _ => rfl) (by simp)
        fun t y' hy' => ?_) (by simp) hgone fun t ht => ?_
      · obtain ⟨y, hy, rfl⟩ := exists_sheet_of_modifySheet (m := m₂) hy'
        refine ⟨y, (hsheet t).symm.trans hy, fun ht => ?_, ?_⟩
        · rw [if_neg fun heq => ht (by rw [heq])]
        · split <;> exact fun _ hx => hx
      · rw [← hsheet]
        change ((m₂.modifySheet s _).sheet? t).isSome at ht
        rw [sheet?_modifySheet] at ht
        split at ht <;> simpa using ht
    · -- the sheet was freed with its rules
      rw [if_neg hlive]
      exact halters.trans hp.alters_self (by simp) hgone
        fun t ht => by rwa [← hsheet]

theorem alters_emptied (h : m.Placed) (hr : m.rule? r = some rule) :
    Alters (some (.rule r)) none m (m.emptied r rule) := by
  have hf := (m.setContent r .placeholder).frees_free rule.content.owned
  refine .of_lookups (h.emptied hr) (fun x y' hy' => ?_) fun s y' hy' => ?_
  · obtain ⟨y, hy, rfl⟩ := exists_rule_of_modifyRule (hf.rule?_eq_some hy')
    refine ⟨y, hy, ?_⟩
    split
    · rename_i hx
      exact ⟨List.nil_subset _, fun hne => absurd (by rw [hx]) hne⟩
    · exact ⟨fun _ hx => hx, fun _ => rfl⟩
  · exact ⟨y', hf.sheet?_eq_some hy', fun _ => rfl, fun _ _ hx => hx⟩

theorem revises_setRuleText (h : m.Placed) (r : RuleId) (text : String) :
    Revises (some (.rule r)) none m ((ModelM.setRuleText r text).exec m).2 := by
  have hplaced := h.setRuleText r text
  rcases ModelM.exec_setRuleText (m := m) (r := r) text with
    ⟨e, he⟩ | ⟨rule, source, m₂, content, hr, ⟨hs, htype⟩, hbuild, he⟩
  · rw [he]
    exact (Prunes.refl m).revises h
  obtain ⟨hp, hcontent, himport⟩ := plants_build (h.emptied hr) rule.parentSheet r
    (RuleSource.wellNested_ofString hs)
  have hretired := fun x => retired_build (m := m.emptied r rule) (x := x) rule.parentSheet r source
  have hbuild : (m.emptied r rule).build rule.parentSheet r source = (m₂, content) := hbuild
  rw [hbuild] at hp hcontent himport hretired
  have halters := h.alters_emptied hr
  have hgone : ∀ x, (m.rule? x).isSome → (m.emptied r rule).rule? x = none →
      m₂.rule? x = none := fun x hx =>
    rule?_eq_none_of_freed hretired (by rwa [rule?_setContent_isSome])
  have hsheet : ∀ t, m₂.sheet? t = (m.emptied r rule).sheet? t := fun t => by
    rw [sheet?, sheet?, hp.stocks.sheets]
  have htarget : ∀ x, some (ModelPart.rule r) = some (.rule x) → r = x := fun x hx =>
    ModelPart.rule.inj (Option.some.inj hx)
  have hlive : ∀ x, some (ModelPart.rule r) = some (.rule x) → (m.rule? x).isSome := by
    intro x hx
    rw [← htarget x hx, hr]
    rfl
  rw [he] at hplaced ⊢
  cases hy : m₂.rule? r with
  | none =>
    -- the rule was freed with its content
    rw [if_neg (by simp)]
    refine (halters.trans hp.alters_self hlive hgone fun t ht => by rwa [← hsheet]).revises
      fun x y₀ y' hx _ hy' => ?_
    obtain rfl := htarget x hx
    cases hy.symm.trans hy'
  | some y =>
    rw [if_pos (by simp [hy])] at hplaced ⊢
    simp only at hplaced ⊢
    generalize hm₃ : ((m₂.setContent r content).noteImport rule.content.type rule.parentSheet
      r).noteChanged rule.parentSheet = m₃ at *
    have hrule : ∀ x, m₃.rule? x = (m₂.setContent r content).rule? x := fun x => by
      rw [← hm₃, rule?_noteChanged, rule?_noteImport]
    have hself : m₃.rule? r = some { y with content } := by
      rw [hrule, rule?_setContent, if_pos rfl, hy]
      rfl
    have hother : ∀ x, r ≠ x → m₃.rule? x = m₂.rule? x := fun x hx => by
      rw [hrule, rule?_setContent, if_neg hx]
    have hsheet₃ : ∀ t, m₃.sheet? t = (m.emptied r rule).sheet? t := by
      intro t
      rw [← hsheet, ← hm₃, sheet?_noteChanged, sheet?, sheets_noteImport]
      rfl
    have hkept : ((m.emptied r rule).rule? r).isSome := by
      rw [Option.isSome_iff_ne_none]
      intro hdead
      cases (hgone r (hlive r rfl) hdead).symm.trans hy
    have hput := hp.alters_content himport hkept hplaced hself hother hsheet₃ (w := none)
    refine (halters.trans hput hlive (fun x hx hx₁ => ?_) fun t ht => ?_).revises
      fun x y₀ y' hx hy₀ hy' => ?_
    · rw [hother x (by rintro rfl; simp [hx₁] at hkept), hgone x hx hx₁]
    · rwa [← hsheet₃]
    · obtain rfl := htarget x hx
      obtain rfl := Option.some.inj (hself.symm.trans hy')
      obtain rfl := Option.some.inj (hr.symm.trans hy₀)
      exact hcontent.trans htype

theorem revises_setSelectorText (h : m.Placed) (r : RuleId) (text : String) :
    Revises (some (.rule r)) none m ((ModelM.setSelectorText r text).exec m).2 := by
  refine Prunes.revises ?_ (h.setSelectorText r text)
  rcases ModelM.exec_setSelectorText (m := m) (r := r) text with
    he | ⟨rule, selectors, block, new, hr, hc, he⟩ <;> rw [he]
  · exact .refl m
  · exact (Prunes.setContent hr (by rw [hc]; rfl) (List.nil_subset _)).noteChanged _

theorem revises_updateBlock {α : Type} (h : m.Placed) (r : RuleId)
    (f : DeclarationBlock → DeclarationBlock × α) :
    Revises (some (.rule r)) none m ((ModelM.updateBlock r f).exec m).2 := by
  refine Prunes.revises ?_ (h.updateBlock r f)
  rcases ModelM.exec_updateBlock (m := m) (r := r) f with he | ⟨rule, block, hr, he⟩ <;> rw [he]
  · exact .refl m
  · refine (Prunes.setContent hr ?_ ?_).noteChanged _ <;> cases rule.content
    all_goals first | rfl | exact List.Subset.refl _

theorem revises_updateMedia {α : Type} (h : m.Placed) {o : MediaOwner}
    (hp : ∀ r, o = .rule r → p = some (.rule r)) (f : MediaList → MediaList × α) :
    Revises p none m ((ModelM.updateMedia o f).exec m).2 := by
  refine Prunes.revises ?_ (h.updateMedia o f)
  rcases ModelM.exec_updateMedia (m := m) o f with
    he | ⟨s, l, -, he⟩ | ⟨r, rule, l, ho, hr, he⟩ <;> rw [he]
  · exact .refl m
  · refine Prunes.note ?_ _
    exact .modifySheet (fun _ _ => rfl) fun _ _ _ hx => hx
  · rw [hp r ho]
    refine (Prunes.setContent hr ?_ ?_).noteChanged _ <;> cases rule.content
    all_goals first | rfl | exact List.Subset.refl _

theorem revises_setOwner (h : m.Placed) (s : SheetId) (node : Option NodeId)
    (title : Option String) : Revises none none m ((ModelM.setOwner s node title).exec m).2 := by
  refine Prunes.revises ?_ (h.setOwner s node title)
  simp only [ModelM.setOwner, ModelM.exec_sheet_bind]
  cases m.sheet? s with
  | none => exact .refl m
  | some sheet =>
    rw [ModelM.exec_modify]
    exact .modifySheet (fun _ _ => rfl) fun _ _ _ hx => hx

theorem revises_setDisabled (h : m.Placed) (s : SheetId) (disabled : Bool) :
    Revises none none m ((ModelM.setDisabled s disabled).exec m).2 := by
  refine Prunes.revises ?_ (h.setDisabled s disabled)
  simp only [ModelM.setDisabled, ModelM.exec_sheet_bind]
  cases m.sheet? s with
  | none => exact .refl m
  | some sheet =>
    simp only
    split
    · rw [ModelM.exec_modify_bind, ModelM.exec_noteChanged]
      have hset : Prunes none none m (m.modifySheet s fun sheet => { sheet with disabled }) :=
        .modifySheet (fun _ _ => rfl) fun _ _ _ hx => hx
      exact hset.noteChanged (some s)
    · exact .refl m

theorem revises_removeSheet (h : m.Placed) (s : SheetId) :
    Revises none none m ((ModelM.removeSheet s).exec m).2 := by
  refine Prunes.revises ?_ (h.removeSheet s)
  simp only [ModelM.removeSheet, ModelM.exec_sheet_bind]
  cases m.sheet? s with
  | none => exact .refl m
  | some sheet => exact (Prunes.free m [.sheet s]).note _

theorem revises_attachImport (h : m.Placed) (r : RuleId) (s : SheetId) :
    Revises (some (.rule r)) none m ((ModelM.attachImport r s).exec m).2 := by
  refine Prunes.revises ?_ (h.attachImport r s)
  rcases ModelM.exec_attachImport (m := m) (r := r) (s := s) with
    ⟨e, he⟩ | ⟨sheet, rule, href, l, old, m₂, -, hr, hc, hm₂, he⟩
  · rw [he]
    exact .refl m
  have h₂ : Prunes (some (.rule r)) none m m₂ := by
    rw [← hm₂]
    exact (Prunes.setContent hr (by rw [hc]; rfl) (List.nil_subset _)).trans (.free _ _)
  rw [he]
  split
  · refine (h₂.trans ?_).noteChanged _
    exact .modifySheet (fun _ _ => rfl) fun _ _ _ hx => hx
  · exact h₂

theorem revises_takeChanges (h : m.Placed) : Revises none none m m.takeChanges.2 :=
  Prunes.revises (.of_eq rfl rfl) (h.congr rfl rfl)

end Placed

/-- The sheet whose rules an edit changes, or the rule that it changes. -/
def Edit.target? : Edit → Option ModelPart
  | .replaceRules s _ => some (.sheet s)
  | .insertRule c _ _ | .deleteRule c _ => some c.part
  | .setRuleText r _ | .setSelectorText r _ | .updateBlock r _ | .updateMedia (.rule r) _ =>
    some (.rule r)
  | .createSheet _ _ _ | .setOwner _ _ _ | .setDisabled _ _ | .removeSheet _
  | .updateMedia (.sheet _) _ => none

/-- The sheet whose rules an edit replaces. -/
def Edit.replaced? : Edit → Option SheetId
  | .replaceRules s _ => some s
  | _ => none

/-- What each edit changes. -/
theorem Placed.revises (h : m.Placed) (e : Edit) :
    Revises e.target? e.replaced? m (e.apply m) := by
  cases e with
  | createSheet href media origin => exact h.revises_createSheet href media origin
  | setOwner s node title => exact h.revises_setOwner s node title
  | setDisabled s disabled => exact h.revises_setDisabled s disabled
  | replaceRules s text => exact h.revises_replaceRules s text
  | removeSheet s => exact h.revises_removeSheet s
  | insertRule c text index => exact h.revises_insertRule c text index
  | deleteRule c index => exact h.revises_deleteRule c index
  | setRuleText r text => exact h.revises_setRuleText r text
  | setSelectorText r text => exact h.revises_setSelectorText r text
  | updateBlock r f => exact h.revises_updateBlock r _
  | updateMedia o f =>
    refine h.revises_updateMedia (fun r ho => ?_) _
    rw [ho]
    rfl

end WebStyle.ObjectModel
