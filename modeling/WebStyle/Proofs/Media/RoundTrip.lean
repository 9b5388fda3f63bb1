import WebStyle.Media.Environment
import WebStyle.Proofs.Media.Printed
/-!
Media lists are kept by their text: what a text is read as is read again from its canonical text,
as long as the features in it are told from theirs. So are the media of a list. The text of a query
in a list is added to no effect, and it takes out the queries equal to that one, unless there is a
comma in the value of a feature: a text with a comma counts as a list, also where the comma stands in
parentheses.
-/
set_option autoImplicit false

namespace WebStyle

open Lexer MediaReader

variable {ts r : List Token} {f : MediaFeature}

/-! ### What is read -/

namespace MediaReader

theorem lower_of_ofInside? (h : ofInside? ts = some f) : Text.lower f.name = f.name := by
  unfold ofInside? at h
  split at h
  · split at h
    · obtain rfl := Option.some.inj h
      exact Text.lower_lower _
    · simp only at h
      split at h
      · cases h
      · obtain rfl := Option.some.inj h
        exact Text.lower_lower _
    · cases h
  · cases h

theorem lower_of_readFeature? (h : readFeature? ts = some (f, r)) :
    Text.lower f.name = f.name := by
  unfold readFeature? at h
  split at h
  · simp only [Option.bind_eq_bind, Option.bind_eq_some_iff] at h
    obtain ⟨_, -, g, hg, h⟩ := h
    obtain ⟨rfl, -⟩ := Prod.mk.inj (Option.some.inj h)
    exact lower_of_ofInside? hg
  · cases h

theorem lower_of_readFeatures? {fs : List MediaFeature} (h : readFeatures? ts = some fs) :
    ∀ f ∈ fs, Text.lower f.name = f.name := by
  fun_induction readFeatures? ts generalizing fs with
  | case1 =>
    obtain rfl := Option.some.inj h
    exact nofun
  | case2 => cases h
  | case3 ts t r _ _ f rest hf _ ih =>
    obtain ⟨more, hmore, rfl⟩ := Option.map_eq_some_iff.1 h
    exact List.forall_mem_cons.2 ⟨lower_of_readFeature? hf, ih hmore⟩
  | case4 => cases h

/-- A type that is read is in lower case, and none of the words that join queries if it has no
qualifier. -/
theorem valid_of_readType? {qualifier : Option MediaQualifier} {type : String}
    (hts : Proper ts) (h : readType? ts = some (qualifier, type, r)) :
    IsLowerName type ∧
      (qualifier = none → type ≠ "only" ∧ type ≠ "not" ∧ type ≠ "and" ∧ type ≠ "or") := by
  unfold readType? at h
  split at h
  · rename_i word r'
    have hqualified : ∀ {w more}, skipBlanks r' = .ident w :: more → IsLowerName (Text.lower w) :=
      fun heq => (heq ▸ hts.tail.skipBlanks).lowerName
    simp only at h
    split at h
    · split at h
      · rename_i heq
        simp only [Option.some.injEq, Prod.mk.injEq] at h
        obtain ⟨rfl, rfl, -⟩ := h
        exact ⟨hqualified heq, nofun⟩
      · cases h
    · split at h
      · rename_i heq
        simp only [Option.some.injEq, Prod.mk.injEq] at h
        obtain ⟨rfl, rfl, -⟩ := h
        exact ⟨hqualified heq, nofun⟩
      · cases h
    · cases h
    · cases h
    · rename_i honly hnot hand hor
      simp only [Option.some.injEq, Prod.mk.injEq] at h
      obtain ⟨-, rfl, -⟩ := h
      exact ⟨hts.lowerName, fun _ => ⟨honly, hnot, hand, hor⟩⟩
  · cases h

end MediaReader

namespace MediaQuery

theorem valid_notAll : notAll.Valid where
  mediaType := by
    rintro w ⟨⟩
    exact ⟨⟨⟨by decide, by decide⟩, by decide⟩, nofun⟩
  features := nofun
  untyped := nofun

theorem valid_of_ofTokens? {q : MediaQuery} (hts : Proper ts) (h : ofTokens? ts = some q) :
    q.Valid := by
  unfold ofTokens? at h
  split at h
  · rename_i word r heq
    simp only [Option.bind_eq_bind, Option.bind_eq_some_iff] at h
    obtain ⟨⟨qualifier, type, r'⟩, htype, fs, hfs, h⟩ := h
    obtain rfl := Option.some.inj h
    refine ⟨?_, lower_of_readFeatures? hfs, nofun⟩
    rintro w ⟨⟩
    exact valid_of_readType? (heq ▸ hts.skipBlanks) htype
  · simp only [Option.bind_eq_bind, Option.bind_eq_some_iff] at h
    obtain ⟨⟨f, r'⟩, hf, fs, hfs, h⟩ := h
    obtain rfl := Option.some.inj h
    exact ⟨nofun, List.forall_mem_cons.2 ⟨lower_of_readFeature? hf, lower_of_readFeatures? hfs⟩,
      fun _ => ⟨rfl, List.cons_ne_nil f fs⟩⟩

theorem valid_ofTokens (hts : Proper ts) : (ofTokens ts).Valid := by
  unfold ofTokens
  cases hq : ofTokens? ts with
  | none => exact valid_notAll
  | some q => exact valid_of_ofTokens? hts hq

end MediaQuery

namespace MediaList

theorem valid_ofString (t : String) : ∀ q ∈ (ofString t).queries, q.Valid := by
  intro q hq
  have htrim : Proper (trimBlanks (tokenize t)) :=
    Proper.trimBlanks fun u hu => isProper_tokenize t u hu
  unfold ofString ofTokens at hq
  split at hq
  · cases hq
  · obtain ⟨piece, hpiece, rfl⟩ := List.mem_map.1 hq
    exact MediaQuery.valid_ofTokens fun u hu => htrim u (mem_of_splitOutside hpiece hu)

/-- The canonical text of a list that was read is read as the same list, so it is its own canonical
text, and the list holds of the same devices. -/
theorem ofString_text_ofString (t : String)
    (h : ∀ q ∈ (ofString t).queries, ∀ f ∈ q.features, f.Legible) :
    ofString (ofString t).text = ofString t ∧
      (ofString (ofString t).text).text = (ofString t).text ∧
      ∀ env : MediaEnvironment,
        env.holds (ofString (ofString t).text) = env.holds (ofString t) := by
  have hread := ofString_text (valid_ofString t) h
  exact ⟨hread, congrArg text hread, fun env => congrArg env.holds hread⟩

end MediaList

/-- Whether the name and the value of a feature are their own canonical texts, and the tokens of the
value are told from it. -/
def MediaFeature.IsCanonical (f : MediaFeature) : Prop :=
  isPlainName f.name ∧ ∀ v ∈ f.value, tokensText (tokenize v) = v ∧
    (∀ t ∈ tokenize v, t.isSolid) ∧ Printer.keeps none false (tokenize v) ∧
    balances opensGroup (· == .closeParen) 0 (tokenize v) ∧ ∃ t ∈ tokenize v, t.isBlank = false

instance (f : MediaFeature) : Decidable f.IsCanonical :=
  inferInstanceAs (Decidable (_ ∧ _))

theorem MediaFeature.IsCanonical.legible (h : f.IsCanonical) : f.Legible where
  name := h.1
  value v hv :=
    have ⟨htext, hsolid, hkeeps, hbalances, hnonblank⟩ := h.2 v hv
    ⟨tokenize v, ⟨isProper_tokenize v, hsolid, hkeeps, hbalances, hnonblank⟩, htext⟩

namespace MediaList

/-- A list with a qualifier, a type that needs an escape, features with and without values, and a
malformed query. -/
def devices : String :=
  "ONLY Screen and ( -Vendor-Ratio : 3/2 )and (x: calc(1px , [2])), not \\31 x, (Color), and"

/-- The queries of that list. -/
def deviceList : MediaList where
  queries := [⟨some .only, some "screen",
      [⟨"-vendor-ratio", some "3/2"⟩, ⟨"x", some "calc(1px, [2])"⟩]⟩,
    ⟨some .negated, some "1x", []⟩, ⟨none, none, [⟨"color", none⟩]⟩, MediaQuery.notAll]

theorem ofString_text_ofString_devices :
    ofString devices = deviceList ∧ ofString deviceList.text = deviceList := by
  have hread : ofString devices = deviceList := by decide +kernel
  have hlegible : ∀ q ∈ deviceList.queries, ∀ f ∈ q.features, f.Legible := by
    have hcanonical : ∀ q ∈ deviceList.queries, ∀ f ∈ q.features, f.IsCanonical := by
      decide +kernel
    exact fun q hq f hf => (hcanonical q hq f hf).legible
  have h := ofString_text_ofString devices (hread ▸ hlegible)
  rw [hread] at h
  exact ⟨hread, h.1⟩

/-- A name that is printed without the escape that it needs. -/
theorem not_ofString_text_ofString : ¬ ∀ t : String, ofString (ofString t).text = ofString t :=
  fun h => absurd (h "(\\31 a)") (by decide +kernel)

end MediaList
end WebStyle

namespace WebStyle

/-! ### Single queries -/

namespace MediaQuery

variable {q : MediaQuery}

/-- Whether there is a comma in the value of a feature. -/
def holdsComma (q : MediaQuery) : Bool := q.features.any MediaFeature.holdsComma

theorem text_notAll : Text.sameIgnoringCase (Text.trim notAll.text) "not all" := by decide +kernel

/-- The text of a query holds that query, unless it has a comma. -/
theorem ofString?_text (h : q.Valid) (hlegible : ∀ f ∈ q.features, f.Legible) :
    ofString? q.text = if q.holdsComma then none else some q := by
  have hread : q.ReadFrom (Lexer.tokenize q.text) := (lexesAs h hlegible).tokenize
  have hsame : (q == notAll && !Text.sameIgnoringCase (Text.trim q.text) "not all") = false := by
    by_cases hq : q = notAll
    · rw [hq, text_notAll, Bool.not_true, Bool.and_false]
    · rw [beq_false_of_ne hq, Bool.false_and]
  have hcommas : (Lexer.tokenize q.text).contains .comma = q.holdsComma := hread.commas
  simp only [ofString?, ofTokens, hread.reads, Option.getD_some, hcommas, hsame]
  rfl

theorem valid_of_ofString? {text : String} (h : ofString? text = some q) : q.Valid := by
  simp only [ofString?] at h
  split at h
  · cases h
  · split at h
    · cases h
    · obtain rfl := Option.some.inj h
      exact valid_ofTokens fun t ht => isProper_tokenize text t ht

end MediaQuery

/-! ### Lists that are edited -/

namespace MediaList

variable {l l' : MediaList} {medium : String}

/-- The lists that are read from a text, and those that adding and removing media make of them. -/
inductive Reached : MediaList → Prop
  | read (text : String) : Reached (ofString text)
  | appended {l : MediaList} (h : Reached l) (medium : String) : Reached (l.append medium)
  | deleted {l l' : MediaList} {medium : String} (h : Reached l) (hl : l.delete medium = .ok l') :
    Reached l'

theorem forall_append {P : MediaQuery → Prop} (h : ∀ q ∈ l.queries, P q)
    (hmedium : ∀ q, MediaQuery.ofString? medium = some q → P q) :
    ∀ q ∈ (l.append medium).queries, P q := by
  unfold append
  split
  · exact h
  · rename_i q hq
    split
    · exact h
    · exact List.forall_mem_append.2 ⟨h, List.forall_mem_singleton.2 (hmedium q hq)⟩

theorem subset_of_delete (h : l.delete medium = .ok l') : l'.queries ⊆ l.queries := by
  unfold delete at h
  split at h
  · cases h
  · cases h
    exact List.filter_sublist.subset

theorem Reached.valid (h : l.Reached) : ∀ q ∈ l.queries, q.Valid := by
  induction h with
  | read text => exact valid_ofString text
  | appended _ medium ih => exact forall_append ih fun _ => MediaQuery.valid_of_ofString?
  | deleted _ hdelete ih => exact fun q hq => ih q (subset_of_delete hdelete hq)

/-- The text of a query in a list is added to no effect. It takes out the queries equal to that one,
in the order of the others; if it has a comma, it is refused. -/
theorem Reached.append_and_delete_item {q : MediaQuery} {i : Nat} (h : l.Reached)
    (hq : l.queries[i]? = some q) (hlegible : ∀ f ∈ q.features, f.Legible) :
    ∃ text, l.item? i = some text ∧ l.append text = l ∧
      l.delete text =
        if q.holdsComma then .error ⟨text⟩ else .ok ⟨l.queries.filter (· != q)⟩ := by
  have hmem : q ∈ l.queries := List.mem_of_getElem? hq
  have hcontains : l.queries.contains q := List.contains_iff_mem.2 hmem
  have hread := MediaQuery.ofString?_text (h.valid q hmem) hlegible
  refine ⟨q.text, by rw [item?, hq, Option.map_some], ?_, ?_⟩
  · rw [append, hread]
    cases q.holdsComma with
    | true => rfl
    | false => exact if_pos hcontains
  · rw [delete, hread]
    cases q.holdsComma with
    | true => rfl
    | false =>
      have hfilter : (some q).filter l.queries.contains = some q := by
        rw [Option.filter_some, if_pos hcontains]
      simp only [Bool.false_eq_true, if_false, hfilter]

theorem append_and_delete_item_devices :
    (∃ text, deviceList.item? 0 = some text ∧ deviceList.append text = deviceList ∧
      deviceList.delete text = .error ⟨text⟩) ∧
    ∃ text, deviceList.item? 3 = some text ∧ deviceList.append text = deviceList ∧
      deviceList.delete text = .ok ⟨deviceList.queries.take 3⟩ := by
  have hread : ofString devices = deviceList := by decide +kernel
  have hreached : deviceList.Reached := hread ▸ .read devices
  have hcanonical : ∀ f ∈ (deviceList.queries[0]).features, f.IsCanonical := by decide +kernel
  have hcomma : (deviceList.queries[0]).holdsComma = true := by decide +kernel
  have hfilter : deviceList.queries.filter (· != MediaQuery.notAll) =
      deviceList.queries.take 3 := by
    decide +kernel
  obtain ⟨_, hfirst, hsame, hdelete⟩ :=
    hreached.append_and_delete_item (i := 0) rfl fun f hf => (hcanonical f hf).legible
  obtain ⟨_, hlast, hsame', hdelete'⟩ :=
    hreached.append_and_delete_item (i := 3) (q := MediaQuery.notAll) rfl nofun
  rw [hfilter] at hdelete'
  exact ⟨⟨_, hfirst, hsame, hdelete.trans (if_pos hcomma)⟩, ⟨_, hlast, hsame', hdelete'⟩⟩

/-- A query with a comma in parentheses, which is one query of a list. -/
theorem not_append_and_delete_item : ¬ ∀ (l : MediaList) (i : Nat) (q : MediaQuery), l.Reached →
    l.queries[i]? = some q →
      ∃ text, l.item? i = some text ∧ l.append text = l ∧
        l.delete text = .ok ⟨l.queries.filter (· != q)⟩ := by
  intro h
  obtain ⟨text, hitem, -, hdelete⟩ := h _ 0 ⟨none, none, [⟨"x", some "f(1, 2)"⟩]⟩
    (.read "(x: f(1, 2))") (by decide +kernel)
  have htext : (ofString "(x: f(1, 2))").item? 0 = some "(x: f(1, 2))" := by decide +kernel
  obtain rfl := Option.some.inj (htext.symm.trans hitem)
  have hmissing : (ofString "(x: f(1, 2))").delete "(x: f(1, 2))" = .error ⟨"(x: f(1, 2))"⟩ := by
    have hnone : MediaQuery.ofString? "(x: f(1, 2))" = none := by decide +kernel
    rw [delete, hnone]
    rfl
  cases hmissing.symm.trans hdelete

end MediaList
end WebStyle
