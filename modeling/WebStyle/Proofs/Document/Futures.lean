import WebStyle.Proofs.Document.Growth
import WebStyle.Proofs.Document.Results
import WebStyle.Proofs.Style.Applied
/-!
What the sheets of a document will be once all loads are completed, read off the document as it is.
A sheet whose load is under way will have what comes of it, and so will imports.
-/
set_option autoImplicit false

namespace WebStyle.Document

variable {d d' : Document} {a : Arrivals} {held : List SheetId} {s : SheetId} {r : RuleId}

/-- What loads depend on, where each address has one result. -/
def arrivals (d : Document) (fetch : Url → Except FetchError Response) : Arrivals :=
  ⟨fetch, d.settings.loader, d.url.map Url.text, d.model.compatibility.keeps⟩

def address? (d : Document) (s : SheetId) : Option String := (d.model.sheet? s).bind (·.href)

/-- The addresses of a sheet and of those around it. -/
def addresses (d : Document) (s : SheetId) : List String :=
  (d.model.importChain s).filterMap d.address?

/-- The sheet that an import will get, if it is to be loaded. -/
def arriving (d : Document) (a : Arrivals) (r : RuleId) : Option SheetTree :=
  (d.loads.request? (.imported r)).bind fun q =>
    ((d.model.rule? r).bind (·.parentSheet)).bind fun p =>
      (d.model.sheet? p).bind fun parent => a.arrive parent.origin (d.addresses p) q

/-- What a sheet will be. -/
def future (d : Document) (a : Arrivals) (s : SheetId) : Option SheetTree :=
  match (d.loads.request? (.linked s)).bind a.read with
  | none => d.readSheet (d.arriving a) d.treeFuel s
  | some t => (d.model.sheet? s).map fun sheet =>
    ⟨{ d.sheetInfo s sheet with encoding := some t.encoding },
      a.rulesOf (a.imports sheet.origin) sheet.href sheet.href.toList t⟩

/-- Where nothing is to be loaded, sheets are what they will be. -/
theorem future_eq_sheetTree (hl : d.loads.pending = []) (a : Arrivals) (s : SheetId) :
    d.future a s = d.sheetTree s := by
  have hnone : ∀ t, d.loads.request? t = none := fun t => by simp [LoadQueue.request?, hl]
  have harriving : d.arriving a = fun _ => none := by
    funext r
    rw [arriving, hnone, Option.bind_none]
  rw [future, hnone, Option.bind_none, harriving, sheetTree]

/-! ### What the future depends on -/

section Frame

variable {arriving arriving' : RuleId → Option SheetTree}

/-- What is read of a sheet depends on what is visited only, where this holds for rules that are not
the same. -/
theorem readSheet_congr
    (hsheet : ∀ s, d.model.Visits held (.sheet s) → d'.model.sheet? s = d.model.sheet? s ∧
      d'.encodings.find? s = d.encodings.find? s)
    (hrule : ∀ r, d.model.Visits held (.rule r) →
      d'.model.rule? r = d.model.rule? r ∧ arriving' r = arriving r ∨
        ∀ fuel fuel', d.model.EndsWithin fuel (.rule r) → d'.model.EndsWithin fuel' (.rule r) →
          d'.readRule arriving' fuel' r = d.readRule arriving fuel r)
    (fuel : Nat) : ∀ fuel',
    (∀ s, d.model.Visits held (.sheet s) → d.model.EndsWithin fuel (.sheet s) →
      d'.model.EndsWithin fuel' (.sheet s) →
      d'.readSheet arriving' fuel' s = d.readSheet arriving fuel s) ∧
    ∀ r, d.model.Visits held (.rule r) → d.model.EndsWithin fuel (.rule r) →
      d'.model.EndsWithin fuel' (.rule r) →
      d'.readRule arriving' fuel' r = d.readRule arriving fuel r := by
  induction fuel with
  | zero =>
    exact fun fuel' => ⟨fun s _ hd => absurd hd ObjectModel.not_endsWithin_zero,
      fun r _ hd => absurd hd ObjectModel.not_endsWithin_zero⟩
  | succ fuel ih =>
    rintro (_ | fuel')
    · exact ⟨fun s _ _ hd => absurd hd ObjectModel.not_endsWithin_zero,
        fun r _ _ hd => absurd hd ObjectModel.not_endsWithin_zero⟩
    constructor
    · intro s hv hd hd'
      obtain ⟨hs, he⟩ := hsheet s hv
      have hshown : d'.model.shownBy (.sheet s) = d.model.shownBy (.sheet s) := by
        rw [ObjectModel.shownBy, ObjectModel.shownBy, hs]
      rw [readSheet, readSheet, hs]
      cases hsheet : d.model.sheet? s with
      | none => rfl
      | some sheet =>
        simp only [Option.map_some, sheetInfo, he]
        congr 2
        refine List.map_congr_left fun x hx => ?_
        have hx' : .rule x ∈ d.model.shownBy (.sheet s) := by
          simpa [ObjectModel.shownBy, hsheet] using hx
        exact (ih fuel').2 x (hv.shown hx') (hd.shown hx') (hd'.shown (hshown ▸ hx'))
    · intro r hv hd hd'
      rcases hrule r hv with ⟨hr, ha⟩ | hread
      · have hshown : d'.model.shownBy (.rule r) = d.model.shownBy (.rule r) := by
          rw [ObjectModel.shownBy, ObjectModel.shownBy, hr]
        rw [readRule, readRule, hr]
        cases hr' : d.model.rule? r with
        | none => rfl
        | some rule =>
          simp only
          cases hc : rule.content with
          | media l rules =>
            simp only
            congr 1
            refine List.map_congr_left fun x hx => ?_
            have hx' : .rule x ∈ d.model.shownBy (.rule r) := by
              rw [ObjectModel.mem_shownBy_rule hr', hc]
              simpa [RuleContent.owned] using hx
            exact (ih fuel').2 x (hv.shown hx') (hd.shown hx') (hd'.shown (hshown ▸ hx'))
          | importing href l x =>
            cases x with
            | none => simp only [ha]
            | some x =>
              have hx' : .sheet x ∈ d.model.shownBy (.rule r) := by
                rw [ObjectModel.mem_shownBy_rule hr', hc]
                simp [RuleContent.owned]
              simp only
              rw [(ih fuel').1 x (hv.shown hx') (hd.shown hx') (hd'.shown (hshown ▸ hx'))]
          | _ => rfl
      · exact hread _ _ hd hd'

/-- More fuel than there is does not lead further. -/
theorem readSheet_eq_sheetTree (h : d.model.Sound held) (hs : s ∈ held) {fuel : Nat}
    (hf : d.treeFuel ≤ fuel) : d.readSheet (fun _ => none) fuel s = d.sheetTree s := by
  obtain ⟨k, hk, hd⟩ := h.endsWithin hs
  refine (readSheet_congr (fun _ _ => ⟨rfl, rfl⟩) (fun _ _ => .inl ⟨rfl, rfl⟩) d.treeFuel fuel).1 s
    (ObjectModel.visits_held hs) ⟨k, hk, hd⟩ ⟨k, Nat.lt_of_lt_of_le hk hf, hd⟩

end Frame

/-! ### Sheets that were just loaded -/

theorem toOption_importUrl (d : Document) (fetch : Url → Except FetchError Response) (s : SheetId)
    (href : String) : (d.importUrl s href).toOption =
      (d.arrivals fetch).importUrl? (d.address? s) (d.addresses s) href := rfl

/-- An import that is loaded as is right for its sheet will have what imports get there. -/
theorem arriving_eq_imports (hd : d.discarded = false) (fetch : Url → Except FetchError Response)
    {x : RuleId} {y : Rule} {sheet : StyleSheet} {href : String} {l : MediaList} {e : Encoding}
    (hx : d.model.rule? x = some y) (hp : y.parentSheet = some s)
    (hs : d.model.sheet? s = some sheet) (hc : y.content = .importing href l none)
    (he : d.encodings.find? s = some e)
    (hrequest : d.loads.request? (.imported x) = d.importRequest? (s, x)) :
    d.arriving (d.arrivals fetch) x =
      (d.arrivals fetch).imports sheet.origin sheet.href (d.addresses s) e href := by
  have hhref : d.model.importHref x = .ok href := by
    rw [ObjectModel.importHref, ObjectModel.rule, hx]
    simp only [ObjectModel.live, bind, Except.bind, hc]
    rfl
  have haddress : d.address? s = sheet.href := by
    rw [address?, hs]
    rfl
  rw [arriving, hrequest, importRequest?, hd, hhref, Arrivals.imports_eq]
  simp only [toOption_importUrl d fetch, haddress, he, Option.getD_some, hx, hp, hs,
    Option.bind_some, Option.bind_map]
  rfl

section Landed

variable {m : ObjectModel} {sheet : StyleSheet} {t : SheetText} {target : LoadTarget}
  (hch : d.model.changes = [])
  (hfills : d.model.Fills m s sheet (SheetSource.ofString t.text).rules)
include hch hfills

theorem changes_of_fills : (∀ s, .removed s ∉ m.changes) ∧ ∀ s' x, .imported s' x ∈ m.changes ↔
    s' = s ∧ ∃ y, d.model.IsAdded m x y ∧ y.content.type = .importing := by
  obtain ⟨l, hl, hremoved, hmem⟩ := hfills.noted
  rw [hch, List.nil_append] at hl
  rw [hl]
  exact ⟨hremoved, hmem⟩

theorem encodings_landed : (d.landed target m s t.encoding).encodings =
    d.encodings.insert s t.encoding :=
  encodings_notice (changes_of_fills hch hfills).1

/-- Only new imports are loaded in another way than before. -/
theorem request?_landed_of_issued {x : LoadTarget}
    (hx : ∀ r, x = .imported r → d.model.rules.Issued r) :
    (d.landed target m s t.encoding).loads.request? x =
      if x = target then none else d.loads.request? x := by
  obtain ⟨hremoved, hmem⟩ := changes_of_fills hch hfills
  rw [landed, request?_notice_of_ne hremoved]
  · exact LoadQueue.request?_filter_target _ _ _
  · rintro s' r hc rfl
    obtain ⟨-, y, hy, -⟩ := (hmem s' r).1 hc
    exact hy.2 (hx r rfl)

omit hch hfills in
theorem model_landed : (d.landed target m s t.encoding).model = { m with changes := [] } :=
  model_notice _ true

omit hch hfills in
theorem remains_landed : d.Remains (d.landed target m s t.encoding) := by
  have hset : d.Remains
      { d.withoutLoad target with model := m, encodings := d.encodings.insert s t.encoding } :=
    ⟨rfl, rfl, rfl, rfl, rfl, rfl⟩
  exact hset.trans (remains_notice _ true)

omit hch in
theorem arrivals_landed (fetch : Url → Except FetchError Response) :
    (d.landed target m s t.encoding).arrivals fetch = d.arrivals fetch := by
  have hr : d.Remains (d.landed target m s t.encoding) := remains_landed
  rw [arrivals, arrivals, hr.settings, hr.url, model_landed, hfills.compatibility]

omit hch in
theorem sheet?_landed : ∃ ids,
    (d.landed target m s t.encoding).model.sheet? s =
      some { sheet with rules := ids, deleted := [] } ∧
    RuleSource.RendersAll d.model.compatibility.keeps (d.model.IsAdded m)
      (SheetSource.ofString t.text).rules ids := by
  obtain ⟨ids, hs, hr⟩ := hfills.filled
  refine ⟨ids, ?_, hr⟩
  rw [model_landed]
  exact hs

/-- New imports will have what imports get that are in such a sheet. -/
theorem arriving_landed (h : d.Wired) (hd : d.discarded = false)
    (fetch : Url → Except FetchError Response) {x : RuleId} {y : Rule} {href : String}
    {l : MediaList}
    (hadded : d.model.IsAdded m x y) (hc : y.content = .importing href l none) :
    (d.landed target m s t.encoding).arriving (d.arrivals fetch) x =
      (d.arrivals fetch).imports sheet.origin sheet.href
        ((d.landed target m s t.encoding).addresses s) t.encoding href := by
  obtain ⟨hremoved, hmem⟩ := changes_of_fills hch hfills
  have hnoted : .imported s x ∈ m.changes := (hmem s x).2 ⟨rfl, y, hadded, by rw [hc]; rfl⟩
  have hnew : (d.withoutLoad target).loads.request? (.imported x) = none := by
    refine LoadQueue.request?_eq_none_iff.2 fun ht => hadded.2 (h.imported x ?_).1
    exact d.loads.targets_filter_subset _ ht
  have hrequest : (d.landed target m s t.encoding).loads.request? (.imported x) =
      (d.landed target m s t.encoding).importRequest? (s, x) := by
    have hnotice : (d.landed target m s t.encoding).loads.request? (.imported x) =
        ((d.landed target m s t.encoding).importRequest? (s, x)).or
          ((d.withoutLoad target).loads.request? (.imported x)) := by
      refine request?_notice_of_mem ?_ ?_ ?_
      · exact hremoved
      · exact hnoted
      · exact fun s' hs' => ((hmem s' x).1 hs').1
    rw [hnotice, hnew, Option.or_none]
  obtain ⟨ids, hs, -⟩ : ∃ ids, (d.landed target m s t.encoding).model.sheet? s =
      some { sheet with rules := ids, deleted := [] } ∧ _ := sheet?_landed hfills
  have hx : (d.landed target m s t.encoding).model.rule? x = some y := by
    rw [model_landed]
    exact hadded.1
  have he : (d.landed target m s t.encoding).encodings.find? s = some t.encoding := by
    rw [encodings_landed hch hfills, Table.find?_insert, if_pos rfl]
  have hdiscarded : (d.landed target m s t.encoding).discarded = false :=
    (remains_landed (m := m)).discarded.trans hd
  rw [← arrivals_landed hfills fetch]
  have harriving := arriving_eq_imports hdiscarded fetch hx (hfills.added x y hadded).1 hs hc he
    hrequest
  exact harriving

/-- The sheet that was loaded will be what comes of its text. -/
theorem readSheet_landed (h : d.Wired) (hd : d.discarded = false)
    (fetch : Url → Except FetchError Response) {fuel : Nat}
    (hends : (d.landed target m s t.encoding).model.EndsWithin (fuel + 1) (.sheet s)) :
    (d.landed target m s t.encoding).readSheet
        ((d.landed target m s t.encoding).arriving (d.arrivals fetch)) (fuel + 1) s =
      some ⟨⟨sheet.href, sheet.media, sheet.ownerNode, sheet.disabled, sheet.origin, sheet.title,
          some t.encoding⟩,
        (d.arrivals fetch).rulesOf ((d.arrivals fetch).imports sheet.origin) sheet.href
          ((d.landed target m s t.encoding).addresses s) t⟩ := by
  obtain ⟨ids, hs, hr⟩ : ∃ ids, (d.landed target m s t.encoding).model.sheet? s =
      some { sheet with rules := ids, deleted := [] } ∧ _ := sheet?_landed hfills
  have he : (d.landed target m s t.encoding).encodings.find? s = some t.encoding := by
    rw [encodings_landed hch hfills, Table.find?_insert, if_pos rfl]
  have hrules : ids.map ((d.landed target m s t.encoding).readRule
      ((d.landed target m s t.encoding).arriving (d.arrivals fetch)) fuel) =
      (d.arrivals fetch).rulesOf ((d.arrivals fetch).imports sheet.origin) sheet.href
        ((d.landed target m s t.encoding).addresses s) t := by
    refine map_readRule_eq_growAll (fun x y hadded => ⟨?_, fun href l hc => ?_⟩) hr fun x hx => ?_
    · rw [model_landed]
      exact hadded.1
    · exact arriving_landed hch hfills h hd fetch hadded hc
    · refine hends.shown ?_
      simpa [ObjectModel.shownBy, hs] using hx
  rw [readSheet, hs, Option.map_some, sheetInfo, he, hrules]

end Landed

/-! ### What stays as it is -/

section Same

variable {t : SheetId}

theorem addresses_congr {l : List SheetId} (hl : d.model.IsChain s l)
    (hsame : ∀ x ∈ l, d'.model.sheet? x = d.model.sheet? x) : d'.addresses s = d.addresses s := by
  rw [addresses, addresses, (hl.congr hsame).importChain_eq, hl.importChain_eq]
  refine List.filterMap_congr fun x hx => ?_
  rw [address?, address?, hsame x hx]

theorem arriving_of_read (hread : (d.loads.request? (.imported r)).bind a.read = none) :
    d.arriving a r = none := by
  rw [arriving]
  cases hq : d.loads.request? (.imported r) with
  | none => rfl
  | some q =>
    have hnone : a.read q = none := by simpa [hq] using hread
    have harrive : ∀ origin chain, a.arrive origin chain q = none := fun origin chain => by
      rw [Arrivals.arrive, Arrivals.sheetOf, hnone, Option.map_none]
    simp [harrive]

variable (hn : d.model.Nested [t]) (h : d.model.Sound [t])
  (hsheet : ∀ s, d.model.Visits [t] (.sheet s) → d'.model.sheet? s = d.model.sheet? s ∧
    d'.encodings.find? s = d.encodings.find? s)
include hn h hsheet

/-- What an import will get depends on the sheets around it, and on what is to be loaded for it. -/
theorem arriving_congr (hv : d.model.Visits [t] (.rule r))
    (hrule : d'.model.rule? r = d.model.rule? r)
    (hrequest : d'.loads.request? (.imported r) = d.loads.request? (.imported r)) :
    d'.arriving a r = d.arriving a r := by
  obtain ⟨rule, p, hr, hp, hvp, -⟩ := h.exists_sheet_of_visits_rule hv
  obtain ⟨l, hl, hvl⟩ := (hn.exists_isChain h).2 r rule p hv hr hp
  have haddresses : d'.addresses p = d.addresses p :=
    addresses_congr hl fun x hx => (hsheet x (hvl x hx)).1
  simp only [arriving, hrequest, hrule, hr, Option.bind_some, hp, (hsheet p hvp).1, haddresses]

theorem future_congr (h' : d'.model.Sound [t])
    (hread : (d'.loads.request? (.linked t)).bind a.read =
      (d.loads.request? (.linked t)).bind a.read)
    (hrule : ∀ r, d.model.Visits [t] (.rule r) →
      d'.model.rule? r = d.model.rule? r ∧
          d'.loads.request? (.imported r) = d.loads.request? (.imported r) ∨
        ∀ fuel fuel', d.model.EndsWithin fuel (.rule r) → d'.model.EndsWithin fuel' (.rule r) →
          d'.readRule (d'.arriving a) fuel' r = d.readRule (d.arriving a) fuel r) :
    d'.future a t = d.future a t := by
  have hvt : d.model.Visits [t] (.sheet t) := ObjectModel.visits_held (by simp)
  obtain ⟨hs, he⟩ := hsheet t hvt
  rw [future, future, hread]
  cases (d.loads.request? (.linked t)).bind a.read with
  | some text => simp only [hs, sheetInfo]
  | none =>
    refine (readSheet_congr hsheet (fun r hv => ?_) d.treeFuel d'.treeFuel).1 t hvt
      (h.endsWithin (by simp)) (h'.endsWithin (by simp))
    exact (hrule r hv).imp (fun hsame =>
      ⟨hsame.1, arriving_congr hn h hsheet hv hsame.1 hsame.2⟩) id

end Same

end WebStyle.Document
