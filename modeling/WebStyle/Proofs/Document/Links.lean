import WebStyle.Proofs.Document.Guards
/-!
The sheets of links that are to be loaded. They are there, lie in no other sheet, and have the
addresses that they are loaded from, whatever else was done, also where imports were given sheets.
-/
set_option autoImplicit false

namespace WebStyle.Document

variable {d d' : Document} {m : ObjectModel} {l : PendingLoad LoadTarget} {s : SheetId} {url : Url}
  {first : Bool}

/-- Whether a sheet is that of a link to an address. -/
def IsLinkedTo (d : Document) (s : SheetId) (url : Url) : Prop :=
  s ∈ d.appliedSheets ∧ ∃ sheet, d.model.sheet? s = some sheet ∧ sheet.href = some url.text ∧
    sheet.parentSheet = none

/-- What holds of the loads of links. Where a sheet was removed meanwhile, this waits to be
noticed. -/
structure Linkage (d : Document) : Prop where
  loads : d.loads.Proper
  idle : d.discarded → d.loads.pending = []
  linked : ∀ l ∈ d.loads.pending, ∀ s, l.target = .linked s → d.model.sheets.Issued s ∧
    (d.IsLinkedTo s l.url ∨ d.model.sheet? s = none ∧ .removed s ∈ d.model.changes)

/-- Loads of sheets that were removed are dropped. -/
theorem isSome_of_mem_notice {x : SheetId} (hl : l ∈ (d.notice first).loads.pending)
    (ht : l.target = .linked s) (hx : .removed x ∈ d.model.changes) :
    (d.model.sheet? s).isSome := by
  rw [notice_eq d first (List.ne_nil_of_mem hx)] at hl
  rcases mem_pending_foldl_schedule hl with ⟨hl, -⟩ | ⟨i, -, hi, -⟩
  · have hmem : x ∈ d.model.changes.filterMap Change.removed? :=
      List.mem_filterMap.2 ⟨_, hx, rfl⟩
    cases hremoved : d.model.changes.filterMap Change.removed? with
    | nil => simp [hremoved] at hmem
    | cons y rest =>
      rw [hremoved] at hl
      have hlive := (List.mem_filter.1 hl).2
      rw [ht] at hlive
      exact hlive
  · exact LoadTarget.noConfusion (ht.symm.trans hi)

namespace Linkage

theorem congr (h : d.Linkage) (hm : d'.model = d.model) (hs : d.appliedSheets ⊆ d'.appliedSheets)
    (hl : d'.loads = d.loads) (hd : d'.discarded = d.discarded) : d'.Linkage := by
  refine ⟨hl ▸ h.loads, fun hdiscarded => ?_, fun l hmem s ht => ?_⟩
  · rw [hl]
    exact h.idle (hd ▸ hdiscarded)
  · rw [IsLinkedTo, hm]
    rw [hl] at hmem
    exact (h.linked l hmem s ht).imp id (·.imp (fun hlinked => ⟨hs hlinked.1, hlinked.2⟩) id)

variable (h : d.Linkage)
include h

theorem editModel (hu : d.model.Upholds d.appliedSheets m) : { d with model := m }.Linkage := by
  refine ⟨h.loads, h.idle, fun l hl s ht => ?_⟩
  obtain ⟨hissued, hlinked⟩ := h.linked l hl s ht
  refine ⟨hu.sheetsGrow.issued s hissued, ?_⟩
  rcases hlinked with ⟨hheld, sheet, hs, hhref, hp⟩ | ⟨hdead, hremoved⟩
  · rcases hu.kept s hheld sheet hs with ⟨sheet', hs', hhref', hp'⟩ | hremoved
    · exact .inl ⟨hheld, sheet', hs', hhref'.trans hhref, hp'.trans hp⟩
    · exact .inr hremoved
  · exact .inr ⟨hu.dead s hissued hdead, hu.changes hremoved⟩

theorem withoutLoad (t : LoadTarget) : (d.withoutLoad t).Linkage := by
  refine ⟨h.loads.filter _, fun hd => ?_, fun l hl => h.linked l (List.mem_of_mem_filter hl)⟩
  have hnil := h.idle hd
  simp [Document.withoutLoad, LoadQueue.filter, hnil]

theorem notice (first : Bool) : (d.notice first).Linkage := by
  have hmodel := model_notice d first
  have hremains := remains_notice d first
  refine ⟨proper_notice h.loads first, fun hd => ?_, fun l hl s ht => ?_⟩
  · rw [hremains.discarded] at hd
    refine List.eq_nil_iff_forall_not_mem.2 fun l hl => ?_
    rcases mem_pending_notice hl with ⟨hold, -⟩ | ⟨hno, -⟩
    · simp [h.idle hd] at hold
    · simp [hd] at hno
  · rcases mem_pending_notice hl with ⟨hold, -⟩ | ⟨-, _, _, _, -, ht', -⟩
    · obtain ⟨hissued, hlinked⟩ := h.linked l hold s ht
      rw [hmodel]
      refine ⟨hissued, .inl ?_⟩
      rcases hlinked with ⟨hheld, hlinked⟩ | ⟨hdead, hremoved⟩
      · rw [IsLinkedTo, hremains.appliedSheets, hmodel]
        exact ⟨hheld, hlinked⟩
      · have hlive := isSome_of_mem_notice hl ht hremoved
        simp [hdead] at hlive
    · exact LoadTarget.noConfusion (ht.symm.trans ht')

theorem register (s : SheetId) : { d with sheets := d.sheets ++ [s] }.Linkage := by
  refine h.congr rfl ?_ rfl rfl
  simp [appliedSheets]

/-- A sheet that is gone may be forgotten. -/
theorem forget (hs : d.model.sheet? s = none) :
    { d with sheets := d.sheets.filter (· != s) }.Linkage := by
  refine ⟨h.loads, h.idle, fun l hl x ht => (h.linked l hl x ht).imp id ?_⟩
  rintro (⟨hheld, sheet, hx, hlinked⟩ | hremoved)
  · refine .inl ⟨?_, sheet, hx, hlinked⟩
    have hne : x ≠ s := by
      rintro rfl
      simp [hs] at hx
    simp only [appliedSheets, List.mem_append] at hheld ⊢
    exact hheld.imp id fun hheld => List.mem_filter.2 ⟨hheld, by simpa using hne⟩
  · exact .inr hremoved

theorem loadLinked (hs : d.IsLinkedTo s url) (hnew : .linked s ∉ d.loads.targets)
    (hd : d.discarded = false) (referrer : Option Encoding) (ticket : Nat) (label : Option String) :
    { d with loads :=
      (d.loads.pushBack url (.linked s) referrer).1.declare ticket label }.Linkage := by
  refine ⟨(h.loads.pushBack url referrer hnew).declare ticket label, fun hdiscarded => ?_,
    fun l hl x ht => ?_⟩
  · rw [hd] at hdiscarded
    exact Bool.noConfusion hdiscarded
  · obtain ⟨l₀, hl₀, htarget, hurl⟩ := LoadQueue.exists_of_mem_declare hl
    rw [hurl]
    rcases List.mem_append.1 hl₀ with hl₀ | hl₀
    · exact h.linked l₀ hl₀ x (htarget.symm.trans ht)
    · obtain rfl := List.mem_singleton.1 hl₀
      obtain rfl := LoadTarget.linked.inj (htarget.symm.trans ht)
      obtain ⟨sheet, hsheet, -⟩ := hs.2
      exact ⟨Slots.issued_of_get? hsheet, .inl hs⟩

/-! ### Sheets of elements -/

section Sheets

variable (hc : d.Coherent)
include hc

theorem addStyleElement (hw : d.model.Unwrapped) (n : NodeId) (text : String) :
    ((DocumentM.addStyleElement n text).exec d).2.Linkage := by
  rw [DocumentM.addStyleElement, DocumentM.exec_bind]
  rcases hc.exec_addSheet hw n none with ⟨e, he⟩ | ⟨s, m, he, hm⟩
  · rw [he]
    exact h
  · have hadded := h.editModel (hm.upholds.trans (hm.edits.sound.upholds_replaceRules s text))
    rw [he]
    simp only [DocumentM.exec_edit_bind]
    generalize (ModelM.replaceRules s text).exec m = run at hadded ⊢
    obtain ⟨x, m'⟩ := run
    cases x with
    | error e => exact hadded
    | ok u => exact hadded.register s

theorem addLinked (hw : d.model.Unwrapped) (n : NodeId) :
    ((DocumentM.addLinked n).exec d).2.Linkage := by
  rw [DocumentM.addLinked, DocumentM.exec_element_bind]
  cases d.dom.element? n with
  | none => exact h
  | some e =>
    simp only [DocumentM.exec_bind, DocumentM.exec_get]
    generalize (resolveHref _ _).toOption = resolved
    rcases hc.exec_addSheet hw n _ with ⟨e, he⟩ | ⟨s, m, he, hm⟩
    · rw [he]
      exact h
    · have hadded := (h.editModel hm.upholds).register s
      rw [he]
      cases resolved with
      | none => exact hadded
      | some url =>
        obtain ⟨sheet, hsheet, -, hp⟩ := hm.isEmpty
        obtain ⟨loads, hl, hloads⟩ := DocumentM.exec_loadLinked s url (e.attribute? "charset")
          { d with model := m, sheets := d.sheets ++ [s] }
        simp only [DocumentM.exec_modify, DocumentM.exec_bind, hl]
        rcases hloads with rfl | ⟨hd, ticket, rfl⟩
        · exact hadded
        · have hlinked : IsLinkedTo { d with model := m, sheets := d.sheets ++ [s] } s url :=
            ⟨by simp [appliedSheets], sheet, hsheet, hm.address sheet hsheet, hp⟩
          refine hadded.loadLinked hlinked (fun hmem => ?_) hd _ ticket _
          obtain ⟨l, hl, ht⟩ := List.mem_map.1 hmem
          exact hm.fresh (h.linked l hl s ht).1

theorem removeStyleSheet (s : SheetId) : ((DocumentM.removeStyleSheet s).exec d).2.Linkage := by
  have hremoved := h.editModel (hc.model.upholds_removeSheet s)
  rw [DocumentM.removeStyleSheet, DocumentM.exec_edit_bind]
  cases hrun : (ModelM.removeSheet s).exec d.model with
  | mk x m =>
    rw [hrun] at hremoved
    cases x with
    | error e => exact hremoved
    | ok u => exact (hremoved.forget (ObjectModel.sheet?_removeSheet hrun)).notice _

end Sheets

/-! ### Results of loads -/

section Loads

variable (hc : d.Coherent) (hw : d.model.Unwrapped)
include hc hw

theorem fill (url : Url) (text : String) (target : LoadTarget) :
    (d.fill url text target).2.Linkage := by
  cases target with
  | linked s => exact h.editModel (hc.model.upholds_replaceRules s text)
  | imported r =>
    simp only [Document.fill, fillImport]
    cases ((d.model.rule? r).bind (·.parentSheet)).bind d.model.sheet? with
    | none => exact h
    | some parent =>
      have he := hc.model.edits_createSheet hw.sheets (some url.text) "" parent.origin
      have hu := ObjectModel.Upholds.createSheet hc.model hw.sheets (some url.text) "" parent.origin
      have hs := hc.model.isSpare_createSheet hw.sheets (some url.text) "" parent.origin
      have hheld := hc.model.createSheet hw.sheets (some url.text) "" parent.origin
      simp only [ModelM.createSheet, ModelM.exec_update] at he
      simp only
      generalize d.model.createSheet (some url.text) "" parent.origin = created at *
      obtain ⟨m, s⟩ := created
      have hfill := hu.trans (hs.upholds_fill hheld text r)
      have hsound := (hs.edits_fill hheld text r).sound
      simp only [edit_eq] at hfill ⊢
      generalize ModelM.exec _ m = run at *
      obtain ⟨x, m'⟩ := run
      cases x with
      | ok u => exact h.editModel hfill
      | error e => exact h.editModel (hfill.trans (hsound.upholds_removeSheet s))

theorem complete (ticket : Nat) (result : Except FetchError Response) :
    (d.complete ticket result).2.Linkage := by
  have h' : d.sync.Linkage := h.notice false
  rcases snd_complete_sync h'.loads ticket result with heq | ⟨l, hl, hd, heq⟩
  · rwa [heq]
  · rw [heq, snd_complete h'.loads (changes_notice d false) hd hl result]
    have hwithout := h'.withoutLoad l.target
    split
    · exact hwithout
    · rename_i t _
      have hfill := hwithout.fill ((hc.notice false).of_loads _ d.sync.encodings)
        (unwrapped_notice hw false) l.url t.text l.target
      generalize Document.fill _ l.url t.text l.target = filled at hfill ⊢
      obtain ⟨x, d'⟩ := filled
      cases x with
      | none => exact hfill
      | some s =>
        have hset : { d' with encodings := d'.encodings.insert s t.encoding }.Linkage :=
          hfill.congr rfl (List.Subset.refl _) rfl rfl
        exact hset.notice true

end Loads

/-- Every action leaves what is to be loaded for links right. -/
theorem apply (hc : d.Coherent) (hw : d.model.Unwrapped) (a : Action) (ha : a.IsProper d)
    (hw' : (a.apply d).model.Unwrapped) : (a.apply d).Linkage := by
  have hsame : ∀ {d' : Document}, d'.model = d.model → d'.appliedSheets = d.appliedSheets →
      d'.loads = d.loads → d'.discarded = d.discarded → d'.Linkage :=
    fun hm hs hl hd => h.congr hm (hs ▸ List.Subset.refl _) hl hd
  cases a with
  | editDom e => exact hsame rfl rfl rfl rfl
  | editModel e => exact h.editModel (hc.model.upholds_apply e hw')
  | attachImport r s => exact h.editModel (hc.model.upholds_attachImport ha r)
  | addStyleElement n text => exact h.addStyleElement hc hw n text
  | addLinked n => exact h.addLinked hc hw n
  | removeStyleSheet s => exact h.removeStyleSheet hc s
  | pendingLoads => exact h.notice false
  | complete ticket result => exact h.complete hc hw ticket result
  | setLayout layout => exact hsame rfl rfl rfl rfl
  | setCharset label =>
    rw [Action.apply, setCharset]
    generalize (Encoding.ofLabel? (Text.trim label)).getD d.encoding = encoding
    exact hsame rfl rfl rfl rfl
  | discard =>
    exact ⟨.of_nil rfl, fun _ => rfl, fun l hl => absurd hl List.not_mem_nil⟩
  | updateInline n f =>
    rw [Action.apply, DocumentM.updateInline, DocumentM.exec_element_bind]
    cases d.dom.element? n with
    | none => exact h
    | some e => exact hsame rfl rfl rfl rfl
  | computedStyle n pseudo =>
    have hsync := h.notice false
    rw [Action.apply, Document.computedStyle]
    split
    · exact hsync
    · refine hsync.congr ?_ ?_ ?_ ?_
      all_goals
        rw [refreshInline]
        split
      all_goals first | rfl | exact List.Subset.refl _

end Linkage

/-- Whatever was done, links are loaded into their sheets. -/
theorem Reached.linkage (h : Reached (fun d a => a.IsProper d) d) : d.Linkage := by
  induction h with
  | new url settings hw =>
    exact ⟨.of_nil rfl, fun _ => rfl, fun l hl => absurd hl List.not_mem_nil⟩
  | act h ha hw ih =>
    obtain ⟨hc, hw₀⟩ := h.coherent fun _ _ ha => ha
    exact ih.apply hc hw₀ _ ha hw

end WebStyle.Document
