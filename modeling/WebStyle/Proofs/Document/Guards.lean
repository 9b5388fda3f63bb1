import WebStyle.Proofs.Document.Futures
import WebStyle.Proofs.ObjectModel.Roots
/-!
No sheet is imported by itself, not even through others, and no more sheets lie around each other
than may. This is decided when an import is queued, and it is still right when the sheet is there.
-/
set_option autoImplicit false

namespace WebStyle

theorem checkImport_eq_ok {url : Url} {chain : List String} {limit : Nat} {u : Unit} :
    checkImport url chain limit = .ok u ↔ url.text ∉ chain ∧ chain.length < limit := by
  rw [checkImport]
  by_cases hmem : url.text ∈ chain
  · simp [hmem]
  · by_cases hlimit : limit ≤ chain.length
    · simp [hmem, hlimit]
    · simp [hmem, hlimit, Nat.lt_of_not_le hlimit]

namespace Document

variable {d d' : Document} {m : ObjectModel} {s p : SheetId} {r : RuleId} {sheet : StyleSheet}
  {href : String} {url : Url} {l : PendingLoad LoadTarget} {first : Bool}

theorem importUrl_eq (d : Document) (s : SheetId) (href : String) : d.importUrl s href = (do
    let url ← resolveHref ((d.address? s).or (d.url.map Url.text)) href
    checkImport url (d.addresses s) d.settings.loader.maxImportDepth
    pure url) := rfl

theorem importUrl_eq_ok : d.importUrl s href = .ok url ↔
    resolveHref ((d.address? s).or (d.url.map Url.text)) href = .ok url ∧
      url.text ∉ d.addresses s ∧ (d.addresses s).length < d.settings.loader.maxImportDepth := by
  rw [importUrl_eq]
  generalize resolveHref ((d.address? s).or (d.url.map Url.text)) href = resolved
  cases resolved with
  | error e => simp [bind, Except.bind]
  | ok u =>
    simp only [bind, Except.bind, Except.ok.injEq]
    cases hc : checkImport u (d.addresses s) d.settings.loader.maxImportDepth with
    | error e =>
      simp only [reduceCtorEq, false_iff, not_and]
      rintro rfl hmem hlimit
      have hok : checkImport u _ _ = .ok () := checkImport_eq_ok.2 ⟨hmem, hlimit⟩
      simp [hok] at hc
    | ok v =>
      have hok := checkImport_eq_ok.1 hc
      simp only [pure, Except.pure, Except.ok.injEq]
      constructor
      · rintro rfl
        exact ⟨rfl, hok⟩
      · exact fun h => h.1

/-! ### Addresses -/

section Congr

variable (hsheets : d'.model.sheets = d.model.sheets)
include hsheets

theorem address?_congr : d'.address? = d.address? := by
  funext s
  rw [address?, address?, ObjectModel.sheet?, ObjectModel.sheet?, hsheets]

theorem addresses_of_sheets (s : SheetId) : d'.addresses s = d.addresses s := by
  have hfuel : ∀ fuel seen s,
      d'.model.importChainFuel fuel seen s = d.model.importChainFuel fuel seen s := by
    intro fuel
    induction fuel with
    | zero => exact fun _ _ => rfl
    | succ fuel ih =>
      rintro seen (_ | s)
      · rfl
      · simp only [ObjectModel.importChainFuel, ObjectModel.sheet?, hsheets, ih]
  rw [addresses, addresses, address?_congr hsheets, ObjectModel.importChain,
    ObjectModel.importChain, hfuel, hsheets]

theorem importUrl_congr (hu : d'.url = d.url) (hset : d'.settings = d.settings) (s : SheetId)
    (href : String) : d'.importUrl s href = d.importUrl s href := by
  rw [importUrl_eq, importUrl_eq, address?_congr hsheets, addresses_of_sheets hsheets, hu, hset]

end Congr

theorem addresses_outer (hs : d.model.sheet? s = some sheet) (hp : sheet.parentSheet = none) :
    d.addresses s = sheet.href.toList := by
  rw [addresses, (ObjectModel.IsChain.outer hs hp).importChain_eq]
  cases hhref : sheet.href <;> simp [address?, hs, hhref]

theorem addresses_inner (h : d.model.Rooted) (hs : d.model.sheet? s = some sheet)
    (hp : sheet.parentSheet = some p) :
    d.addresses s = sheet.href.toList ++ d.addresses p := by
  obtain ⟨l, hl⟩ := h.chained p (h.anchored.isSome_parent hs hp)
  rw [addresses, addresses, (ObjectModel.IsChain.inner hs hp hl).importChain_eq, hl.importChain_eq]
  cases hhref : sheet.href <;> simp [address?, hs, hhref]

section Keeps

variable (h : d.model.Rooted) (h' : d'.model.Rooted) (hk : d.model.Keeps d'.model)
  (hs : (d.model.sheet? s).isSome) (hs' : (d'.model.sheet? s).isSome)
include hk hs hs'

theorem address?_keeps : d'.address? s = d.address? s := by
  obtain ⟨sheet', hsheet'⟩ := Option.isSome_iff_exists.1 hs'
  obtain ⟨sheet, hsheet⟩ := Option.isSome_iff_exists.1 hs
  obtain ⟨y, hy, hhref, -⟩ := hk.sheet s sheet' hsheet' (Slots.issued_of_get? hsheet)
  rw [address?, address?, hsheet', hy, Option.bind_some, Option.bind_some, hhref]

include h h'

/-- The addresses around a sheet stay the same for as long as it lives. -/
theorem addresses_keeps : d'.addresses s = d.addresses s := by
  obtain ⟨l, hl⟩ := h.chained s hs
  have hl' := hl.keeps hk h'.anchored hs'
  rw [addresses, addresses, hl'.importChain_eq, hl.importChain_eq]
  refine List.filterMap_congr fun x hx => ?_
  exact address?_keeps hk (hl.isSome x hx) (hl'.isSome x hx)

theorem importUrl_keeps (hu : d'.url = d.url) (hset : d'.settings = d.settings)
    (hok : d'.importUrl s href = .ok url) : d.importUrl s href = .ok url := by
  rw [importUrl_eq_ok] at hok ⊢
  rwa [address?_keeps hk hs hs', addresses_keeps h h' hk hs hs', hu, hset] at hok

end Keeps

/-! ### Loads -/

/-- Whether an import may be loaded from an address: none of the sheets that will lie around the new
one has it, and they are not too many. Unless the import was noted anew, the address is the one that
it refers to, if it may be loaded from there. -/
structure Admits (d : Document) (r : RuleId) (url : Url) : Prop where
  issued : d.model.rules.Issued r
  fresh : ∀ rule p, d.model.rule? r = some rule → rule.parentSheet = some p →
    url.text ∉ d.addresses p ∧ (d.addresses p).length < d.settings.loader.maxImportDepth
  current : ∀ rule p, d.model.rule? r = some rule → rule.parentSheet = some p →
    (∀ s, .imported s r ∉ d.model.changes) → ∀ href url', rule.content.href? = some href →
      d.importUrl p href = .ok url' → url' = url

/-- What holds of the addresses of sheets, and of the imports that are to be loaded. -/
structure Guarded (d : Document) : Prop where
  model : d.model.Rooted
  nodup : ∀ s, (d.model.sheet? s).isSome → (d.addresses s).Nodup
  bounded : ∀ s sheet, d.model.sheet? s = some sheet → sheet.parentSheet.isSome →
    (d.addresses s).length ≤ d.settings.loader.maxImportDepth
  loads : ∀ l ∈ d.loads.pending, ∀ r, l.target = .imported r → d.Admits r l.url
  idle : d.discarded → d.loads.pending = []

theorem Admits.reports (ha : d.Admits r url) (h : d.model.Rooted) (h' : d'.model.Rooted)
    (hk : d.model.Reports d'.model) (hu : d'.url = d.url) (hset : d'.settings = d.settings) :
    d'.Admits r url := by
  have hback : ∀ rule' p, d'.model.rule? r = some rule' → rule'.parentSheet = some p →
      (d'.model.sheet? p).isSome ∧ (d.model.sheet? p).isSome ∧ ∃ rule, d.model.rule? r = some rule ∧
        rule.parentSheet = some p := by
    intro rule' p hr hp
    obtain ⟨rule, hrule, hnone | hparent⟩ := hk.rule r rule' hr ha.issued
    · simp [hp] at hnone
    · have hp₀ := hparent.symm.trans hp
      exact ⟨h'.forest.isSome_parentSheet hr hp, h.forest.isSome_parentSheet hrule hp₀, rule, hrule,
        hp₀⟩
  refine ⟨hk.rulesGrow.issued r ha.issued, fun rule' p hr hp => ?_,
    fun rule' p hr hp hno href url' hhref hok => ?_⟩
  · obtain ⟨hs', hs, rule, hrule, hp₀⟩ := hback rule' p hr hp
    rw [addresses_keeps h h' hk.toKeeps hs hs', hset]
    exact ha.fresh rule p hrule hp₀
  · obtain ⟨hs', hs, rule, hrule, hp₀⟩ := hback rule' p hr hp
    have hsame := ((hk.href r rule rule' hrule hr).resolve_left (by simp [hp])).resolve_right
      fun ⟨s, hs⟩ => hno s hs
    rw [hsame] at hhref
    exact ha.current rule p hrule hp₀ (fun s hs => hno s (hk.changes hs)) href url' hhref
      (importUrl_keeps h h' hk.toKeeps hs hs' hu hset hok)

/-- What changes no sheets around others, and queues no imports. -/
theorem Guarded.reports (h : d.Guarded) (h' : d'.model.Rooted) (hk : d.model.Reports d'.model)
    (hu : d'.url = d.url) (hset : d'.settings = d.settings)
    (hnew : ∀ s sheet', d'.model.sheet? s = some sheet' → ¬ d.model.sheets.Issued s →
      (d'.addresses s).Nodup ∧ (sheet'.parentSheet.isSome →
        (d'.addresses s).length ≤ d.settings.loader.maxImportDepth))
    (hl : ∀ l ∈ d'.loads.pending, ∀ r, l.target = .imported r →
      ∃ l₀ ∈ d.loads.pending, l₀.target = .imported r ∧ l.url = l₀.url)
    (hidle : d'.discarded → d'.loads.pending = []) : d'.Guarded where
  model := h'
  nodup s hs' := by
    obtain ⟨sheet', hsheet'⟩ := Option.isSome_iff_exists.1 hs'
    by_cases hi : d.model.sheets.Issued s
    · obtain ⟨sheet, hsheet, -⟩ := hk.sheet s sheet' hsheet' hi
      have hs : (d.model.sheet? s).isSome := by simp [hsheet]
      rw [addresses_keeps h.model h' hk.toKeeps hs hs']
      exact h.nodup s hs
    · exact (hnew s sheet' hsheet' hi).1
  bounded s sheet' hsheet' hp := by
    rw [hset]
    by_cases hi : d.model.sheets.Issued s
    · obtain ⟨sheet, hsheet, -, hparent⟩ := hk.sheet s sheet' hsheet' hi
      rw [addresses_keeps h.model h' hk.toKeeps (by simp [hsheet]) (by simp [hsheet'])]
      exact h.bounded s sheet hsheet (hparent ▸ hp)
    · exact (hnew s sheet' hsheet' hi).2 hp
  loads l hmem r ht := by
    obtain ⟨l₀, hmem₀, ht₀, hurl⟩ := hl l hmem r ht
    rw [hurl]
    exact (h.loads l₀ hmem₀ r ht₀).reports h.model h' hk hu hset
  idle := hidle

namespace Guarded

/-- What the sheets and their imports have nothing to do with. -/
theorem congr (h : d.Guarded) (hm : d'.model = d.model) (hu : d'.url = d.url)
    (hset : d'.settings = d.settings)
    (hl : ∀ l ∈ d'.loads.pending, ∀ r, l.target = .imported r →
      ∃ l₀ ∈ d.loads.pending, l₀.target = .imported r ∧ l.url = l₀.url)
    (hidle : d'.discarded → d'.loads.pending = []) : d'.Guarded := by
  refine h.reports (hm ▸ h.model) (hm ▸ .refl _) hu hset (fun s sheet' hs hi => ?_) hl hidle
  rw [hm] at hs
  exact absurd (Slots.issued_of_get? hs) hi

theorem withoutLoad (h : d.Guarded) (t : LoadTarget) : (d.withoutLoad t).Guarded := by
  refine h.congr rfl rfl rfl (fun l hl r ht => ⟨l, List.mem_of_mem_filter hl, ht, rfl⟩) fun hd => ?_
  have hnil := h.idle hd
  simp [Document.withoutLoad, LoadQueue.filter, hnil]

/-- Edits add sheets that lie within no others. -/
theorem editModel (h : d.Guarded) (hr : m.Rooted) (hi : d.model.Inherits m) :
    { d with model := m }.Guarded := by
  refine h.reports hr (.of_inherits hi) rfl rfl (fun s sheet' hs hfresh => ?_)
    (fun l hl r ht => ⟨l, hl, ht, rfl⟩) h.idle
  rcases hi.parent s sheet' hs with ⟨sheet, hsheet, -⟩ | ⟨-, hp⟩
  · exact absurd (Slots.issued_of_get? hsheet) hfresh
  · have haddresses : addresses { d with model := m } s = sheet'.href.toList :=
      addresses_outer (d := { d with model := m }) hs hp
    rw [haddresses]
    refine ⟨?_, fun hsome => ?_⟩
    · cases sheet'.href <;> simp
    · simp [hp] at hsome

end Guarded

/-! ### Taking notice -/

theorem importRequest?_eq_some {i : SheetId × RuleId} {q : LoadRequest}
    (h : d.importRequest? i = some q) : d.discarded = false ∧
      ∃ href, d.model.importHref i.2 = .ok href ∧ d.importUrl i.1 href = .ok q.url := by
  rw [importRequest?] at h
  cases hd : d.discarded with
  | true => simp [hd] at h
  | false =>
    cases hhref : d.model.importHref i.2 with
    | error e => simp [hd, hhref] at h
    | ok href =>
      simp only [hd, hhref] at h
      cases hurl : d.importUrl i.1 href with
      | error e => simp [hurl, Except.toOption] at h
      | ok url =>
        rw [hurl] at h
        obtain rfl := Option.some.inj h
        exact ⟨rfl, href, rfl, hurl⟩

theorem importUrl_ne_ok {i : SheetId × RuleId} (h : d.importRequest? i = none)
    (hd : d.discarded = false) (hhref : d.model.importHref i.2 = .ok href) (url : Url) :
    d.importUrl i.1 href ≠ .ok url := by
  intro hurl
  simp [importRequest?, hd, hhref, hurl, Except.toOption] at h

theorem mem_pending_schedule {i : SheetId × RuleId}
    (hl : l ∈ (schedule first d i).loads.pending) :
    l ∈ d.loads.pending ∧ (l.target = .imported i.2 → d.importRequest? i = none) ∨
      l.target = .imported i.2 ∧ d.importRequest? i = some l.request := by
  rcases d.schedule_eq first i with ⟨hnone, heq⟩ | ⟨url, referrer, hsome, heq⟩
  · rw [heq] at hl
    exact .inl ⟨hl, fun _ => hnone⟩
  · rw [heq] at hl
    have hcases : l ∈ d.loads.pending ∧ l.target ≠ .imported i.2 ∨
        l = ⟨d.loads.next, url, .imported i.2, some referrer, none⟩ := by
      split at hl
      · simpa [LoadQueue.pushFront, LoadQueue.filter, or_comm] using hl
      · simpa [LoadQueue.pushBack, LoadQueue.filter] using hl
    rcases hcases with ⟨hl, hne⟩ | rfl
    · exact .inl ⟨hl, fun ht => absurd ht hne⟩
    · exact .inr ⟨rfl, hsome⟩

/-- What was to be loaded before is so still where the imports that were noted later may not be
loaded. -/
theorem mem_pending_foldl_schedule {imports : List (SheetId × RuleId)}
    (hl : l ∈ (imports.foldl (schedule first) d).loads.pending) :
    l ∈ d.loads.pending ∧ (∀ i ∈ imports, l.target = .imported i.2 → d.importRequest? i = none) ∨
      ∃ i ∈ imports, l.target = .imported i.2 ∧ d.importRequest? i = some l.request := by
  induction imports generalizing d with
  | nil => exact .inl ⟨hl, by simp⟩
  | cons i imports ih =>
    simp only [List.mem_cons, forall_eq_or_imp, exists_eq_or_imp]
    rcases ih hl with ⟨hl, hlater⟩ | ⟨j, hj, ht, hrequest⟩
    · simp only [importRequest?_schedule] at hlater
      exact (mem_pending_schedule hl).imp (fun ⟨hl, hi⟩ => ⟨hl, hi, hlater⟩) .inl
    · rw [importRequest?_schedule] at hrequest
      exact .inr (.inr ⟨j, hj, ht, hrequest⟩)

theorem exists_notice_foldl (d : Document) (first : Bool) (hch : d.model.changes ≠ []) :
    ∃ d₁ : Document, d.notice first = (d.announced first).foldl (schedule first) d₁ ∧
      d₁.loads.pending ⊆ d.loads.pending ∧ d₁.discarded = d.discarded ∧
      d₁.model.rules = d.model.rules ∧ ∀ s href, d₁.importUrl s href = d.importUrl s href := by
  have hold := loads_dropRemoved
    { d with model := { d.model with changes := [] }, cache := .empty }
    (d.model.changes.filterMap Change.removed?)
  obtain ⟨encodings, loads, hdrop⟩ := exists_dropRemoved
    { d with model := { d.model with changes := [] }, cache := .empty }
    (d.model.changes.filterMap Change.removed?)
  refine ⟨_, notice_eq d first hch, ?_, ?_⟩
  · rcases hold with heq | ⟨p, heq⟩
    · rw [heq]
      exact List.Subset.refl _
    · rw [heq]
      exact List.filter_sublist.subset
  · rw [hdrop]
    exact ⟨rfl, rfl, importUrl_congr rfl rfl rfl⟩

theorem mem_pending_notice (hl : l ∈ (d.notice first).loads.pending) :
    (l ∈ d.loads.pending ∧ (d.discarded = false → ∀ s r, .imported s r ∈ d.model.changes →
      l.target = .imported r → ∀ href url, d.model.importHref r = .ok href →
        d.importUrl s href ≠ .ok url)) ∨
      d.discarded = false ∧ ∃ s r href, .imported s r ∈ d.model.changes ∧ l.target = .imported r ∧
        d.model.importHref r = .ok href ∧ d.importUrl s href = .ok l.url := by
  by_cases hch : d.model.changes = []
  · rw [notice_of_nil d first hch] at hl
    exact .inl ⟨hl, by simp [hch]⟩
  · obtain ⟨d₁, heq, hsub, hdiscarded, hrules, himport⟩ := d.exists_notice_foldl first hch
    have hhref : ∀ r, d₁.model.importHref r = d.model.importHref r := fun r => by
      rw [ObjectModel.importHref, ObjectModel.importHref, ObjectModel.rule, ObjectModel.rule,
        ObjectModel.rule?, ObjectModel.rule?, hrules]
    rw [heq] at hl
    rcases mem_pending_foldl_schedule hl with ⟨hl, hrefused⟩ | ⟨i, hi, ht, hrequest⟩
    · refine .inl ⟨hsub hl, fun hd s r hc ht href url hok => ?_⟩
      rw [← himport]
      exact importUrl_ne_ok (hrefused (s, r) (mem_announced.2 hc) ht) (hdiscarded.trans hd)
        ((hhref r).trans hok) url
    · obtain ⟨hd, href, hok, hurl⟩ := importRequest?_eq_some hrequest
      rw [hhref] at hok
      rw [himport] at hurl
      exact .inr ⟨hdiscarded.symm.trans hd, i.1, i.2, href, mem_announced.1 hi, ht, hok, hurl⟩

theorem addresses_notice (d : Document) (first : Bool) (s : SheetId) :
    (d.notice first).addresses s = d.addresses s :=
  addresses_of_sheets (by rw [model_notice]) s

theorem importUrl_notice (d : Document) (first : Bool) (s : SheetId) (href : String) :
    (d.notice first).importUrl s href = d.importUrl s href :=
  importUrl_congr (by rw [model_notice]) (remains_notice d first).url
    (remains_notice d first).settings s href

/-- Imports that are noted belong to the sheets that they are noted with. -/
theorem Guarded.eq_of_noted (h : d.Guarded) {rule : Rule} (hc : .imported s r ∈ d.model.changes)
    (hr : d.model.rule? r = some rule) (hp : rule.parentSheet = some p) : p = s := by
  rcases (h.model.noted s r hc).2 rule hr with hnone | hs
  · simp [hp] at hnone
  · exact Option.some.inj (hp.symm.trans hs)

theorem Guarded.notice (h : d.Guarded) (first : Bool) : (d.notice first).Guarded := by
  have hmodel := model_notice d first
  have hsheet : ∀ s, (d.notice first).model.sheet? s = d.model.sheet? s := fun s => by
    rw [hmodel]
    rfl
  have hrule : ∀ r, (d.notice first).model.rule? r = d.model.rule? r := fun r => by
    rw [hmodel]
    rfl
  have hremains := remains_notice d first
  refine ⟨hmodel ▸ h.model.takeChanges, fun s hs => ?_, fun s sheet hs hp => ?_,
    fun l hl r ht => ?_, fun hd => List.eq_nil_iff_forall_not_mem.2 fun l hl => ?_⟩
  · rw [hsheet] at hs
    rw [addresses_notice]
    exact h.nodup s hs
  · rw [hsheet] at hs
    rw [addresses_notice, hremains.settings]
    exact h.bounded s sheet hs hp
  · rcases mem_pending_notice hl with ⟨hold, hrefused⟩ | ⟨hd, s, r', href, hc, ht', hhref, hurl⟩
    · have ha := h.loads l hold r ht
      have hd : d.discarded = false := by
        rw [← Bool.not_eq_true]
        intro hd
        simp [h.idle hd] at hold
      refine ⟨by rw [hmodel]; exact ha.issued, fun rule p hr hp => ?_,
        fun rule p hr hp _ href url hhref hok => ?_⟩
      · rw [addresses_notice, hremains.settings]
        exact ha.fresh rule p (hrule r ▸ hr) hp
      · rw [hrule] at hr
        rw [importUrl_notice] at hok
        refine ha.current rule p hr hp (fun s hc => ?_) href url hhref hok
        obtain rfl := h.eq_of_noted hc hr hp
        exact hrefused hd p r hc ht href url ((ObjectModel.importHref_eq_ok hr).2 hhref) hok
    · obtain rfl := LoadTarget.imported.inj (ht.symm.trans ht')
      refine ⟨by rw [hmodel]; exact (h.model.noted s r hc).1, fun rule p hr hp => ?_,
        fun rule p hr hp _ href' url hhref' hok => ?_⟩
      · obtain rfl := h.eq_of_noted hc (hrule r ▸ hr) hp
        rw [addresses_notice, hremains.settings]
        exact (importUrl_eq_ok.1 hurl).2
      · rw [hrule] at hr
        obtain rfl := h.eq_of_noted hc hr hp
        obtain rfl := Option.some.inj
          (((ObjectModel.importHref_eq_ok hr).1 hhref).symm.trans hhref')
        rw [importUrl_notice] at hok
        exact (Except.ok.inj (hurl.symm.trans hok)).symm
  · rw [hremains.discarded] at hd
    rcases mem_pending_notice hl with ⟨hold, -⟩ | ⟨hno, -⟩
    · simp [h.idle hd] at hold
    · simp [hd] at hno

end Document
end WebStyle
