import WebStyle.Proofs.Document.Targets
/-!
What the results of loads do. A result that can be read gives a sheet its rules: that of a link, or
a new one that its import gets.
-/
set_option autoImplicit false

namespace WebStyle.Document

variable {d : Document} {l : PendingLoad LoadTarget} {read : Option SheetText}

/-- The document without the load for a target. -/
def withoutLoad (d : Document) (t : LoadTarget) : Document :=
  { d with loads := d.loads.filter (·.target != t) }

/-- The document after a load gave a sheet of the given encoding its rules. -/
def landed (d : Document) (t : LoadTarget) (m : ObjectModel) (s : SheetId) (e : Encoding) :
    Document :=
  { d.withoutLoad t with model := m, encodings := d.encodings.insert s e }.notice true

/-- Whether what a load is for is there no more, or belongs to no sheet. -/
def IsGone (d : Document) : LoadTarget → Prop
  | .linked s => d.model.sheet? s = none
  | .imported r => ((d.model.rule? r).bind (·.parentSheet)).bind d.model.sheet? = none

/-- What a result amounts to, if it could be read as given. -/
inductive Outcome (d : Document) (l : PendingLoad LoadTarget) (read : Option SheetText) :
    Document → Prop where
  | unread (hread : read = none) : Outcome d l read (d.withoutLoad l.target)
  | gone (hgone : d.IsGone l.target) : Outcome d l read (d.withoutLoad l.target)
  | linked {s : SheetId} {sheet : StyleSheet} {t : SheetText} {m : ObjectModel}
      (ht : l.target = .linked s) (hread : read = some t) (hs : d.model.sheet? s = some sheet)
      (hrewires : d.model.Rewires m)
      (hfills : d.model.Fills m s sheet (SheetSource.ofString t.text).rules)
      (hother : ∀ q, q ≠ .sheet s → ¬ d.model.Reaches sheet.owned q →
        (∀ x, q = .rule x → (d.model.rule? x).isSome) → d.model.Untouched m q) :
      Outcome d l read (d.landed l.target m s t.encoding)
  | imported {r : RuleId} {rule : Rule} {href : String} {media : MediaList} {p s : SheetId}
      {parent : StyleSheet} {t : SheetText} {m : ObjectModel}
      (ht : l.target = .imported r) (hread : read = some t) (hr : d.model.rule? r = some rule)
      (hc : rule.content = .importing href media none) (hp : rule.parentSheet = some p)
      (hparent : d.model.sheet? p = some parent)
      (hfills : d.model.FillsImport m r rule href media s
        { StyleSheet.new (some l.url.text) (.ofString "") parent.origin with
          parentSheet := rule.parentSheet, ownerRule := some r }
        (SheetSource.ofString t.text).rules) :
      Outcome d l read (d.landed l.target m s t.encoding)

theorem unwrapped_of_notice {first : Bool} (hw : (d.notice first).model.Unwrapped) :
    d.model.Unwrapped := by
  by_cases hch : d.model.changes = []
  · rwa [notice_of_nil d first hch] at hw
  · obtain ⟨encodings, loads, heq⟩ := exists_notice d first hch
    rw [heq] at hw
    exact ⟨hw.sheets, hw.rules⟩

theorem fillLinked_eq (d : Document) (s : SheetId) (text : String) : d.fillLinked s text =
    match (ModelM.replaceRules s text).exec d.model with
    | (.ok _, m) => (some s, { d with model := m })
    | (.error _, m) => (none, { d with model := m }) := by
  rw [fillLinked, edit_eq]
  generalize (ModelM.replaceRules s text).exec d.model = run
  obtain ⟨x, m⟩ := run
  cases x <;> rfl

/-- The document after a sheet was filled that is in the given encoding. -/
def settle (e : Encoding) : Option SheetId × Document → Document
  | (none, d) => d
  | (some s, d) => { d with encodings := d.encodings.insert s e }.notice true

section Pending

variable (h : d.loads.Proper) (hch : d.model.changes = []) (hd : d.discarded = false)
  (hl : l ∈ d.loads.pending) (result : Except FetchError Response)
include h hch hd hl

/-- Completing a load that is under way, where no change waits to be noticed. -/
theorem complete_eq : d.complete l.ticket result =
    match (result.mapError LoadError.fetch).bind fun r =>
      SheetText.ofResponse l r d.settings.loader with
    | .error _ => (false, d.withoutLoad l.target)
    | .ok t =>
      (((d.withoutLoad l.target).fill l.url t.text l.target).1.isSome,
        settle t.encoding ((d.withoutLoad l.target).fill l.url t.text l.target)) := by
  have hsync : d.sync = d := notice_of_nil d false hch
  simp only [Document.complete, hsync]
  rw [if_neg (by simp [hd]), withoutLoad]
  simp only [h.take_of_mem hl]
  cases (result.mapError LoadError.fetch).bind fun r =>
    SheetText.ofResponse l r d.settings.loader with
  | error e => rfl
  | ok t =>
    simp only
    generalize Document.fill _ l.url t.text l.target = filled
    obtain ⟨x, d'⟩ := filled
    cases x <;> rfl

/-- Whether the result is of use. -/
theorem fst_complete : (d.complete l.ticket result).1 =
    match (result.mapError LoadError.fetch).bind fun r =>
      SheetText.ofResponse l r d.settings.loader with
    | .error _ => false
    | .ok t => ((d.withoutLoad l.target).fill l.url t.text l.target).1.isSome := by
  rw [complete_eq h hch hd hl result]
  split <;> rfl

/-- What becomes of the document. -/
theorem snd_complete : (d.complete l.ticket result).2 =
    match (result.mapError LoadError.fetch).bind fun r =>
      SheetText.ofResponse l r d.settings.loader with
    | .error _ => d.withoutLoad l.target
    | .ok t => settle t.encoding ((d.withoutLoad l.target).fill l.url t.text l.target) := by
  rw [complete_eq h hch hd hl result]
  split <;> rfl

end Pending

/-- A result is passed over, or it is that of a load under way. -/
theorem snd_complete_sync (h : d.sync.loads.Proper) (ticket : Nat)
    (result : Except FetchError Response) : (d.complete ticket result).2 = d.sync ∨
      ∃ l ∈ d.sync.loads.pending, d.sync.discarded = false ∧
        (d.complete ticket result).2 = (d.sync.complete l.ticket result).2 := by
  have hsync : d.sync.sync = d.sync := notice_of_nil d.sync false (changes_notice d false)
  have heq : d.complete ticket result = d.sync.complete ticket result := by
    rw [Document.complete, Document.complete, hsync]
  rw [heq]
  by_cases hd : d.sync.discarded
  · refine .inl ?_
    rw [Document.complete, hsync]
    simp only [hd, ↓reduceIte]
  · rcases h.take_eq ticket with hnone | ⟨l, hl, rfl, -⟩
    · refine .inl ?_
      rw [Document.complete, hsync]
      simp only [hd]
      generalize d.sync.loads.take ticket = taken at hnone ⊢
      obtain ⟨loads, x⟩ := taken
      obtain rfl : x = none := hnone
      rfl
    · exact .inr ⟨l, hl, by simpa using hd, rfl⟩

/-- Whether a target is a sheet of the document, or an import that may get a sheet. -/
def IsAim (d : Document) : LoadTarget → Prop
  | .linked s => (d.model.sheet? s).isSome → s ∈ d.appliedSheets
  | .imported r => d.model.MayOpen r

theorem Wired.isAim (h : d.Wired) (hl : l ∈ d.loads.pending) : d.IsAim l.target := by
  have hmem := LoadQueue.mem_targets hl
  cases ht : l.target with
  | linked s => exact (h.linked s (ht ▸ hmem)).2
  | imported r => exact h.imported r (ht ▸ hmem)

section Complete

variable (hc : d.Coherent)
include hc

/-- The sheet of a link gets its rules, unless it is gone. -/
theorem outcome_linked {s : SheetId} {t : SheetText} (haim : d.IsAim (.linked s))
    (ht : l.target = .linked s)
    (hw' : (settle t.encoding ((d.withoutLoad l.target).fillLinked s t.text)).model.Unwrapped) :
    Outcome d l (some t) (settle t.encoding ((d.withoutLoad l.target).fillLinked s t.text)) := by
  have hmodel : (d.withoutLoad l.target).model = d.model := rfl
  rw [fillLinked_eq, hmodel] at hw' ⊢
  cases hs : d.model.sheet? s with
  | none =>
    rw [ModelM.exec_replaceRules_of_none hs]
    exact .gone (by rw [ht]; exact hs)
  | some sheet =>
    have hw₁ : ((ModelM.replaceRules s t.text).exec d.model).2.Unwrapped := by
      generalize (ModelM.replaceRules s t.text).exec d.model = run at hw' ⊢
      obtain ⟨x, m⟩ := run
      cases x with
      | error e => exact hw'
      | ok u => exact unwrapped_of_notice hw'
    have hheld := haim (by simp [hs])
    obtain ⟨hrun, hfills, hother⟩ := hc.model.fills_replaceRules hs hheld t.text hw₁
    have hrewires := hc.model.rewires_replaceRules s t.text hw₁
    generalize ((ModelM.replaceRules s t.text).exec d.model).2 = m at *
    rw [hrun]
    exact .linked ht rfl hs hrewires hfills hother

/-- An import gets a new sheet, unless it belongs to no sheet that is there. -/
theorem outcome_imported {r : RuleId} {t : SheetText} (hw : d.model.Unwrapped)
    (hopen : d.model.MayOpen r) (ht : l.target = .imported r)
    (hw' : (settle t.encoding
      ((d.withoutLoad l.target).fillImport r l.url.text t.text)).model.Unwrapped) :
    Outcome d l (some t)
      (settle t.encoding ((d.withoutLoad l.target).fillImport r l.url.text t.text)) := by
  have hmodel : (d.withoutLoad l.target).model = d.model := rfl
  rw [fillImport, hmodel] at hw' ⊢
  cases hparent : ((d.model.rule? r).bind (·.parentSheet)).bind d.model.sheet? with
  | none => exact .gone (by rw [ht]; exact hparent)
  | some parent =>
    obtain ⟨p, hp, hsheet⟩ := Option.bind_eq_some_iff.1 hparent
    obtain ⟨rule, hr, hp⟩ := Option.bind_eq_some_iff.1 hp
    obtain ⟨href, media, hcontent⟩ := hopen.2 rule hr
    have hfill := hc.model.exec_fill hw.sheets l.url.text t.text parent.origin
      (rfl : d.model.createSheet (some l.url.text) "" parent.origin = _) hr hcontent
    rw [hparent] at hw'
    simp only [edit_eq] at hw' ⊢
    generalize d.model.createSheet (some l.url.text) "" parent.origin = created at *
    obtain ⟨m₁, s⟩ := created
    simp only at hfill hw' ⊢
    generalize ModelM.exec _ m₁ = run at *
    obtain ⟨x, m⟩ := run
    cases x with
    | error e =>
      have hremoved := ObjectModel.rewires_removeSheet (m := m) s
      have hwm : m.Unwrapped :=
        ⟨hw'.sheets.of_grows hremoved.sheetsGrow, hw'.rules.of_grows hremoved.rulesGrow⟩
      obtain ⟨m', heq, -⟩ := hfill hwm
      simp at heq
    | ok u =>
      obtain ⟨m', heq, hfills⟩ := hfill (unwrapped_of_notice hw')
      obtain rfl : m = m' := congrArg Prod.snd heq
      exact .imported ht rfl hr hcontent hp hsheet hfills

/-- Where no change waits to be noticed, a load that is under way comes to its outcome. -/
theorem outcome_complete (h : d.loads.Proper) (haim : d.IsAim l.target) (hw : d.model.Unwrapped)
    (hch : d.model.changes = []) (hd : d.discarded = false) (hl : l ∈ d.loads.pending)
    (result : Except FetchError Response)
    (hw' : (d.complete l.ticket result).2.model.Unwrapped) :
    Outcome d l (l.request.read d.settings.loader result) (d.complete l.ticket result).2 := by
  rw [snd_complete h hch hd hl result] at hw' ⊢
  rw [l.read_request]
  generalize (result.mapError LoadError.fetch).bind _ = read at *
  cases read with
  | error e => exact .unread rfl
  | ok t =>
    cases ht : l.target with
    | linked s =>
      simp only [fill, ht] at hw' ⊢
      rw [← ht] at hw' ⊢
      exact outcome_linked hc (ht ▸ haim) ht hw'
    | imported r =>
      have hopen : d.IsAim (.imported r) := ht ▸ haim
      simp only [fill, ht] at hw' ⊢
      rw [← ht] at hw' ⊢
      exact outcome_imported hc hw hopen ht hw'

end Complete

/-! ### What loads are for, all the while -/

theorem Outcome.wired {d' : Document} (ho : Outcome d l read d') (h : d.Wired) (hc : d.Coherent)
    (hch : d.model.changes = []) : d'.Wired := by
  have hwithout : (d.withoutLoad l.target).Wired := h.filterLoads _
  cases ho with
  | unread => exact hwithout
  | gone => exact hwithout
  | linked _ _ _ hrewires =>
    have hmodel := hwithout.editModel hc.model hrewires
    refine Wired.notice ?_ true
    exact hmodel.congr rfl rfl rfl
  | @imported r rule href media p s parent t m ht _ hr _ _ _ hfills =>
    obtain ⟨m₁, hrewires, hr₁, hfree, rfl⟩ := hfills.before
    have hmodel := hwithout.editModel hc.model hrewires
    have hheld : s ∉ d.appliedSheets := fun hs => hfills.fresh (hc.model.heldIssued s hs)
    have htaken : .imported r ∉ (d.withoutLoad l.target).loads.targets := by
      rw [← ht]
      exact d.loads.notMem_targets_filter l.target
    have hevolves := ObjectModel.Evolves.attached m₁ r s href media rule.parentSheet
    refine Wired.notice ?_ true
    refine ⟨hmodel.nested.attached hheld hr₁ hfree, hmodel.loads, fun x hx => ?_, fun x hx => ?_,
      fun x y hxy => ?_⟩
    · refine ⟨hevolves.sheetsGrow.issued x (hmodel.linked x hx).1, fun hlive => ?_⟩
      refine (hmodel.linked x hx).2 ?_
      simp only [ObjectModel.sheet?_attached] at hlive
      split at hlive
      · simpa using hlive
      · exact hlive
    · refine (hmodel.imported x hx).attached ?_
      rintro rfl
      exact htaken hx
    · have hy := hmodel.announced x y (ObjectModel.mem_changes_attached hxy)
      refine hy.attached ?_
      rintro rfl
      -- what is noted is new, while the import was there before
      obtain ⟨changes, hl, -, hmem⟩ := hfills.fills.noted
      rw [show (m₁.attached y s href media rule.parentSheet).changes = _ from hl, hch,
        List.nil_append] at hxy
      obtain ⟨-, z, hz, -⟩ := (hmem x y).1 hxy
      exact hz.2 (Slots.issued_of_get? hr)

theorem Wired.complete (h : d.Wired) (hc : d.Coherent) (hw : d.model.Unwrapped) (ticket : Nat)
    (result : Except FetchError Response)
    (hw' : (d.complete ticket result).2.model.Unwrapped) : (d.complete ticket result).2.Wired := by
  have h' : d.sync.Wired := h.notice false
  rcases snd_complete_sync h'.loads ticket result with heq | ⟨l, hl, hd, heq⟩
  · rwa [heq]
  · rw [heq] at hw' ⊢
    have hc' : d.sync.Coherent := hc.notice false
    have ho := outcome_complete hc' h'.loads (h'.isAim hl) (unwrapped_notice hw false)
      (changes_notice d false) hd hl result hw'
    exact ho.wired h' hc' (changes_notice d false)

/-- Whether an action gives a sheet to an import. -/
def Action.AttachesImport : Action → Prop
  | .attachImport _ _ => True
  | _ => False

theorem Wired.apply (h : d.Wired) (hc : d.Coherent) (hw : d.model.Unwrapped) (a : Action)
    (ha : ¬ a.AttachesImport) (hw' : (a.apply d).model.Unwrapped) : (a.apply d).Wired := by
  cases a with
  | editDom e => exact h.congr rfl rfl rfl
  | editModel e => exact h.editModel hc.model (hc.model.rewires_apply e hw')
  | attachImport r s => exact absurd trivial ha
  | addStyleElement n text => exact h.addStyleElement hc hw n text hw'
  | addLinked n => exact h.addLinked hc hw n
  | removeStyleSheet s => exact h.removeStyleSheet hc s
  | pendingLoads => exact h.notice false
  | complete ticket result => exact h.complete hc hw ticket result hw'
  | setLayout layout => exact h.congr rfl rfl rfl
  | setCharset label =>
    rw [Action.apply, setCharset]
    generalize (Encoding.ofLabel? (Text.trim label)).getD d.encoding = encoding
    exact h.congr rfl rfl rfl
  | discard =>
    refine ⟨h.nested, .of_nil rfl, fun s hs => ?_, fun r hr => ?_, h.announced⟩
    · exact absurd hs List.not_mem_nil
    · exact absurd hr List.not_mem_nil
  | updateInline n f =>
    rw [Action.apply, DocumentM.updateInline, DocumentM.exec_element_bind]
    cases d.dom.element? n with
    | none => exact h
    | some e => exact h.congr rfl rfl rfl
  | computedStyle n pseudo =>
    rw [Action.apply, Document.computedStyle]
    split
    · exact h.notice false
    · refine (h.notice false).congr ?_ ?_ ?_
      all_goals
        rw [refreshInline]
        split <;> rfl

theorem nested_initialModel (settings : DocumentSettings)
    (hw : (initialModel settings).1.Unwrapped) :
    (initialModel settings).1.Nested (initialModel settings).2.toList := by
  have hempty := ObjectModel.sound_empty settings.compatibility
  have hnested : (ObjectModel.empty settings.compatibility).Nested [] :=
    ⟨fun r rule s sheet p hr => by
      simp [ObjectModel.rule?, ObjectModel.empty, Slots.get?_empty] at hr,
      fun s hs => by simp at hs⟩
  rw [initialModel] at hw ⊢
  revert hw
  cases settings.userAgent with
  | none => exact fun _ => hnested
  | some text =>
    intro hw
    have hcreate := hempty.createSheet Slots.unwrapped_empty none "" .userAgent
    have hsheet : ∀ x, ((ObjectModel.empty settings.compatibility).createSheet none ""
        .userAgent).1.sheet? x = _ := hempty.sheet?_createSheet
    have hrewires := ObjectModel.Rewires.createSheet hempty Slots.unwrapped_empty none "" .userAgent
    have hcreated := hnested.rewires hempty hrewires
    simp only at hw ⊢
    generalize (ObjectModel.empty settings.compatibility).createSheet none "" .userAgent =
      created at *
    obtain ⟨m, s⟩ := created
    have hheld : m.Nested [s] := by
      refine ⟨hcreated.inner, fun x hx sheet hs => ?_⟩
      rw [hsheet, if_pos (by simpa using hx)] at hs
      obtain rfl := Option.some.inj hs
      rfl
    have hfill := hcreate.rewires_replaceRules s text
    rw [ModelM.exec] at hfill
    simp only at hw hfill ⊢
    generalize ((ModelM.replaceRules s text).run).run m = run at *
    obtain ⟨x, m'⟩ := run
    have hfilled := hheld.rewires hcreate (hfill ⟨hw.sheets, hw.rules⟩)
    cases x with
    | ok u => exact ⟨hfilled.inner, hfilled.outer⟩
    | error e => exact ⟨hfilled.inner, fun s hs => by simp [Except.toBool] at hs⟩

theorem wired_new (url : Option String) (settings : DocumentSettings)
    (hw : (new url settings).model.Unwrapped) : (new url settings).Wired := by
  have hnested := nested_initialModel settings hw
  have hch := (sound_initialModel settings).2
  refine ⟨?_, .of_nil rfl, fun s hs => ?_, fun r hr => ?_, fun s r hc => ?_⟩
  · rw [appliedSheets, new, List.append_nil]
    exact hnested
  · exact absurd hs List.not_mem_nil
  · exact absurd hr List.not_mem_nil
  · rw [new, hch] at hc
    exact absurd hc List.not_mem_nil

/-- Loads are for what they can be given to, whatever was done, but for giving sheets to imports. -/
theorem Reached.wired (h : Reached (fun d a => a.IsProper d ∧ ¬ a.AttachesImport) d) : d.Wired := by
  induction h with
  | new url settings hw => exact wired_new url settings hw
  | act h ha hw ih =>
    obtain ⟨hc, hw₀⟩ := h.coherent fun _ _ ha => ha.1
    exact ih.apply hc hw₀ _ ha.2 hw

end WebStyle.Document
