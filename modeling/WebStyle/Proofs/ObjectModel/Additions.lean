import WebStyle.Proofs.ObjectModel.Placement
import WebStyle.Proofs.Sheet.Order
/-!
What rules that are added hold. They know where they were added; the rules inside them are new as
well, come to an end, and are no imports, and no sheet was loaded for them yet.
-/
set_option autoImplicit false

namespace WebStyle.ObjectModel

variable {m m' : ObjectModel} {sheet : Option SheetId} {parent : Option RuleId}
  {r x : RuleId} {rule : Rule} {ids : List RuleId}

/-- Whether the rules inside a rule come to an end, at whatever depth. -/
def Ends (m : ObjectModel) (r : RuleId) : Prop := Acc (fun y x => y ∈ m.innerOf x) r

theorem innerOf_of_none (h : m.rule? r = none) : m.innerOf r = [] := by simp [innerOf, h]

theorem innerOf_of_some (h : m.rule? r = some rule) : m.innerOf r = rule.content.children := by
  simp [innerOf, h]

theorem innerOf_congr (h : m'.rule? r = m.rule? r) : m'.innerOf r = m.innerOf r := by
  rw [innerOf, innerOf, h]

theorem isImport_of_some (h : m.rule? r = some rule) :
    m.isImport r = (rule.content.type == .importing) := by simp [isImport, h]

theorem isImport_congr (h : m'.rule? r = m.rule? r) : m'.isImport r = m.isImport r := by
  rw [isImport, isImport, h]

theorem Placed.isSome_of_innerOf (h : m.Placed) (hx : x ∈ m.innerOf r) : (m.rule? x).isSome :=
  h.live (.rule r) x hx

theorem ends_of_none (h : m.rule? r = none) : m.Ends r :=
  .intro r fun y hy => by simp [innerOf_of_none h] at hy

/-- What stands inside rules that are left as they were ends as it did. -/
theorem Ends.of_same {P : RuleId → Prop} (h : m.Ends r) (hr : P r)
    (hsame : ∀ x, P x → m'.innerOf x = m.innerOf x) (hP : ∀ x, P x → ∀ y ∈ m.innerOf x, P y) :
    m'.Ends r := by
  induction h with
  | intro x _ ih =>
    refine .intro x fun y hy => ?_
    rw [hsame x hr] at hy
    exact ih y hy (hP x hr y hy)

/-- What adding rules with the given handles does, besides what it does to where rules stand. -/
structure Plants (sheet : Option SheetId) (parent : Option RuleId) (m m' : ObjectModel)
    (ids : List RuleId) : Prop where
  stocks : m.Stocks m' ids
  compatibility : m'.compatibility = m.compatibility
  links : ∀ x ∈ ids, ∀ y, m'.rule? x = some y → y.parentRule = parent ∧ y.parentSheet = sheet
  inner : ∀ x, m.rule? x = none → ∀ z ∈ m'.innerOf x, m.rule? z = none ∧ m'.isImport z = false
  ends : ∀ x, m.rule? x = none → m'.Ends x
  unloaded : ∀ x, m.rule? x = none → ∀ s, .sheet s ∉ m'.ownedBy (.rule x)

namespace Plants

theorem none (h : m.Placed) : Plants sheet parent m m [] where
  stocks := .none h
  compatibility := rfl
  links := by simp
  inner x hx z hz := by simp [innerOf_of_none hx] at hz
  ends _ := ends_of_none
  unloaded x hx s hs := by simp [ownedBy, hx] at hs

theorem of_kept (h : Plants sheet parent m m' ids) (hx : (m'.rule? x).isSome)
    {m'' : ObjectModel} (hkept : ∀ y, (m'.rule? y).isSome → m''.rule? y = m'.rule? y)
    (hnone : m.rule? x = Option.none) :
    m''.Ends x ∧ (∀ z ∈ m''.innerOf x, m.rule? z = Option.none ∧ m''.isImport z = false) ∧
      ∀ s, .sheet s ∉ m''.ownedBy (.rule x) := by
  have hlive : ∀ x, ∀ z ∈ m'.innerOf x, (m'.rule? z).isSome := fun x z =>
    h.stocks.placed.isSome_of_innerOf
  have howned : m''.ownedBy (.rule x) = m'.ownedBy (.rule x) :=
    Untouched.ownedBy (p := .rule x) (hkept x hx)
  refine ⟨(h.ends x hnone).of_same hx (fun y hy => innerOf_congr (hkept y hy))
    fun y _ => hlive y, fun z hz => ?_, howned ▸ h.unloaded x hnone⟩
  rw [innerOf_congr (hkept x hx)] at hz
  rw [isImport_congr (hkept z (hlive x z hz))]
  exact h.inner x hnone z hz

/-- Rules that are added after others. -/
theorem append {m'' : ObjectModel} {ids' : List RuleId} (h : Plants sheet parent m m' ids)
    (h' : Plants sheet parent m' m'' ids') : Plants sheet parent m m'' (ids ++ ids') where
  stocks := h.stocks.append h'.stocks
  compatibility := h'.compatibility.trans h.compatibility
  links x hx y hy := by
    rcases List.mem_append.1 hx with hx | hx
    · rw [h'.stocks.kept x (h.stocks.live x hx)] at hy
      exact h.links x hx y hy
    · exact h'.links x hx y hy
  inner x hx z hz := by
    by_cases hx' : (m'.rule? x).isSome
    · exact (h.of_kept hx' h'.stocks.kept hx).2.1 z hz
    · obtain ⟨hz, himport⟩ := h'.inner x (by simpa using hx') z hz
      exact ⟨h.stocks.fresh_of_fresh hz, himport⟩
  ends x hx := by
    by_cases hx' : (m'.rule? x).isSome
    · exact (h.of_kept hx' h'.stocks.kept hx).1
    · exact h'.ends x (by simpa using hx')
  unloaded x hx := by
    by_cases hx' : (m'.rule? x).isSome
    · exact (h.of_kept hx' h'.stocks.kept hx).2.2
    · exact h'.unloaded x (by simpa using hx')

/-- One rule: it is reserved, its content is built, and then put there. -/
theorem singleton {content : RuleContent} (h : m.Placed)
    (hb : Plants sheet (some (m.reserve sheet parent).2) (m.reserve sheet parent).1 m'
      content.children)
    (himport : ∀ z ∈ content.children, m'.isImport z = false)
    (hunloaded : ∀ s, .sheet s ∉ content.owned) (type : RuleType) :
    Plants sheet parent m ((m'.setContent (m.reserve sheet parent).2 content).noteImport type sheet
      (m.reserve sheet parent).2) [(m.reserve sheet parent).2] := by
  have hstocks := Stocks.singleton h hb.stocks type
  have hreserve := h.rule?_reserve sheet parent
  have hcompat : (m.reserve sheet parent).1.compatibility = m.compatibility := rfl
  generalize (m.reserve sheet parent).1 = m₁ at *
  generalize (m.reserve sheet parent).2 = r at *
  have hr : m'.rule? r = some ⟨.placeholder, parent, sheet⟩ := by
    have hr₁ : m₁.rule? r = some ⟨.placeholder, parent, sheet⟩ := by rw [hreserve, if_pos rfl]
    rw [hb.stocks.kept r (by rw [hr₁]; rfl), hr₁]
  generalize hm₂ : (m'.setContent r content).noteImport type sheet r = m₂
  have hlookup : ∀ y, m₂.rule? y = if r = y then some ⟨content, parent, sheet⟩ else m'.rule? y := by
    intro y
    rw [← hm₂, rule?_noteImport, rule?_setContent]
    split
    · rename_i hy
      rw [← hy, hr]
      rfl
    · rfl
  -- what is newer than the rule is not the rule, and was not there before it
  have hnewer : ∀ y, m₁.rule? y = Option.none → r ≠ y ∧ m.rule? y = Option.none := by
    intro y hy
    rw [hreserve] at hy
    split at hy
    · cases hy
    · rename_i hne
      exact ⟨Ne.symm hne, hy⟩
  have hnew : ∀ y, m.rule? y = Option.none → r ≠ y → m₁.rule? y = Option.none := by
    intro y hy hne
    rw [hreserve, if_neg (Ne.symm hne), hy]
  have hother : ∀ y, r ≠ y → m₂.rule? y = m'.rule? y := fun y hy => by rw [hlookup, if_neg hy]
  have hinner : ∀ y, m₁.rule? y = Option.none → m₂.innerOf y = m'.innerOf y := fun y hy =>
    innerOf_congr (hother y (hnewer y hy).1)
  have hrule : m₂.rule? r = some ⟨content, parent, sheet⟩ := by rw [hlookup, if_pos rfl]
  have hself : m₂.innerOf r = content.children := innerOf_of_some hrule
  have hends : ∀ y, m₁.rule? y = Option.none → m₂.Ends y := fun y hy =>
    (hb.ends y hy).of_same hy hinner fun x hx z hz => (hb.inner x hx z hz).1
  refine ⟨hm₂ ▸ hstocks, ?_, fun x hx y hy => ?_, fun x hx z hz => ?_, fun x hx => ?_,
    fun x hx s hs => ?_⟩
  · rw [← hm₂, compatibility_noteImport]
    exact hb.compatibility.trans hcompat
  · obtain rfl := List.mem_singleton.1 hx
    obtain rfl := Option.some.inj (hrule.symm.trans hy)
    exact ⟨rfl, rfl⟩
  · have hz' : m₁.rule? z = Option.none ∧ m'.isImport z = false := by
      by_cases hxr : r = x
      · rw [← hxr, hself] at hz
        exact ⟨hb.stocks.fresh z hz, himport z hz⟩
      · have hx₁ := hnew x hx hxr
        rw [hinner x hx₁] at hz
        exact hb.inner x hx₁ z hz
    obtain ⟨hzr, hz⟩ := hnewer z hz'.1
    exact ⟨hz, (isImport_congr (hother z hzr)).trans hz'.2⟩
  · by_cases hxr : r = x
    · subst hxr
      refine .intro r fun y hy => hends y (hb.stocks.fresh y ?_)
      rwa [hself] at hy
    · exact hends x (hnew x hx hxr)
  · by_cases hxr : r = x
    · subst hxr
      exact hunloaded s ((mem_ownedBy_rule hrule).1 hs)
    · rw [Untouched.ownedBy (p := .rule x) (hother x hxr)] at hs
      exact hb.unloaded x (hnew x hx hxr) s hs

end Plants

theorem isImport_setContent {content : RuleContent} (hr : (m.rule? r).isSome) (type : RuleType) :
    ((m.setContent r content).noteImport type sheet r).isImport r =
      (content.type == .importing) := by
  obtain ⟨rule, hr⟩ := Option.isSome_iff_exists.1 hr
  have hself : ((m.setContent r content).noteImport type sheet r).rule? r =
      some { rule with content } := by
    rw [rule?_noteImport, rule?_setContent, if_pos rfl, hr]
    rfl
  exact isImport_of_some hself

/-- Rules of which each is of the type of one that was read are no imports if none was read. -/
theorem isImport_eq_false_of_map_eq {sources : List RuleSource} {p : RuleSource → Bool}
    (hmarks : ids.map m.isImport = (sources.filter p).map fun source => source.type == .importing)
    (hs : ∀ source ∈ sources, source.type ≠ .importing) : ∀ z ∈ ids, m.isImport z = false := by
  intro z hz
  have hmem : m.isImport z ∈ ids.map m.isImport := List.mem_map_of_mem hz
  rw [hmarks] at hmem
  obtain ⟨source, hsource, heq⟩ := List.mem_map.1 hmem
  rw [← heq]
  simpa using hs source (List.mem_of_mem_filter hsource)

/-- The rules that are kept of those read are added, each as one of its type. -/
theorem plants_adoptAll (h : m.Placed) (sheet : Option SheetId) (parent : Option RuleId)
    {sources : List RuleSource} (hs : ∀ source ∈ sources, source.WellNested) :
    Plants sheet parent m (m.adoptAll sheet parent sources).1 (m.adoptAll sheet parent sources).2 ∧
      (m.adoptAll sheet parent sources).2.map (m.adoptAll sheet parent sources).1.isImport =
        (sources.filter m.compatibility.keeps).map fun source => source.type == .importing := by
  refine adoptAll.induct_unfolding sheet
    (fun m r source result => m.Placed → source.WellNested →
      Plants sheet (some r) m result.1 result.2.children ∧ result.2.type = source.type ∧
        (∀ z ∈ result.2.children, result.1.isImport z = false) ∧ ∀ s, .sheet s ∉ result.2.owned)
    (fun m parent sources result => m.Placed → (∀ source ∈ sources, source.WellNested) →
      Plants sheet parent m result.1 result.2 ∧ result.2.map result.1.isImport =
        (sources.filter m.compatibility.keeps).map fun source => source.type == .importing)
    ?style ?media ?importing ?fontFace ?page ?nil ?kept ?dropped m parent sources h hs
  case style => exact fun m r selectors declarations h _ =>
    ⟨.none h, rfl, List.forall_mem_nil _, fun _ => List.not_mem_nil⟩
  case media =>
    intro m r l rules m₁ ids heq ih h hs
    rw [heq] at ih
    cases hs with
    | media _ himport hinner =>
      obtain ⟨hp, hmarks⟩ := ih h hinner
      exact ⟨hp, rfl, isImport_eq_false_of_map_eq hmarks himport, by simp [RuleContent.owned]⟩
  case importing => exact fun m r href l h _ =>
    ⟨.none h, rfl, List.forall_mem_nil _, fun _ => List.not_mem_nil⟩
  case fontFace => exact fun m r declarations h _ =>
    ⟨.none h, rfl, List.forall_mem_nil _, fun _ => List.not_mem_nil⟩
  case page => exact fun m r selector declarations h _ =>
    ⟨.none h, rfl, List.forall_mem_nil _, fun _ => List.not_mem_nil⟩
  case nil => exact fun m parent h _ => ⟨.none h, rfl⟩
  case kept =>
    intro m parent source rest hkeeps m₁ r hreserve m₂ content hbuild m₃ m₄ ids hrest ihb iha h hs
    obtain rfl : (m.reserve sheet parent).1 = m₁ := by rw [hreserve]
    obtain rfl : (m.reserve sheet parent).2 = r := by rw [hreserve]
    rw [hbuild] at ihb
    rw [hrest] at iha
    obtain ⟨hb, htype, himport, hunloaded⟩ := ihb (h.reserve sheet parent)
      (hs source List.mem_cons_self)
    have hone := Plants.singleton h hb himport hunloaded source.type
    obtain ⟨hmore, hmarks⟩ := iha hone.stocks.placed fun x hx => hs x (List.mem_cons_of_mem _ hx)
    refine ⟨hone.append hmore, ?_⟩
    have hlive := hone.stocks.live _ List.mem_cons_self
    have hr : (m₂.rule? (m.reserve sheet parent).2).isSome := by
      simpa [m₃, rule?_setContent_isSome] using hlive
    have hmark : m₃.isImport (m.reserve sheet parent).2 = (source.type == .importing) := by
      rw [← htype]
      exact isImport_setContent hr source.type
    rw [List.map_cons, List.filter_cons_of_pos hkeeps, List.map_cons, hmarks, hone.compatibility,
      isImport_congr (hmore.stocks.kept _ hlive), hmark]
  case dropped =>
    intro m parent source rest hkeeps ih h hs
    rw [List.filter_cons_of_neg hkeeps]
    exact ih h fun x hx => hs x (List.mem_cons_of_mem _ hx)

/-- What is built is of the type that was read, and holds no imports. -/
theorem plants_build (h : m.Placed) (sheet : Option SheetId) (r : RuleId) {source : RuleSource}
    (hs : source.WellNested) :
    Plants sheet (some r) m (m.build sheet r source).1 (m.build sheet r source).2.children ∧
      (m.build sheet r source).2.type = source.type ∧
      ∀ z ∈ (m.build sheet r source).2.children,
        (m.build sheet r source).1.isImport z = false := by
  cases hs with
  | media l himport hinner =>
    obtain ⟨hp, hmarks⟩ := plants_adoptAll h sheet (some r) hinner
    simp only [build]
    exact ⟨hp, rfl, isImport_eq_false_of_map_eq hmarks himport⟩
  | style | importing | fontFace | page => exact ⟨.none h, rfl, List.forall_mem_nil _⟩

end WebStyle.ObjectModel
