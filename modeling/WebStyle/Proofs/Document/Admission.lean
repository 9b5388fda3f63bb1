import WebStyle.Proofs.Document.Guards
import WebStyle.Proofs.Document.Runs
/-!
Whatever is done with a document, but for giving sheets to imports: the addresses of the sheets
around each other are all different, and no more than may be. What imports are given was loaded from
the address that they refer to by then, unless nothing may be loaded from there. In that case the
earlier load stays, and what comes of it is taken.
-/
set_option autoImplicit false

namespace WebStyle

namespace ObjectModel

variable {m m' : ObjectModel}

theorem Keeps.takeChanges (h : m.Keeps m') : m.Keeps { m' with changes := [] } :=
  ⟨h.sheetsGrow, h.rulesGrow, h.sheet, h.rule⟩

end ObjectModel

namespace DocumentM

open ObjectModel (Edit)

/-- What is done to sheets when one is added for an element amounts to edits of the object model. -/
theorem snd_exec_addSheet (n : NodeId) (href : Option String) (d : Document) :
    ∃ es : List Edit, ((addSheet n href).exec d).2 =
      { d with model := es.foldl Edit.apply d.model } := by
  rw [addSheet, exec_element_bind]
  cases d.dom.element? n with
  | none => exact ⟨[], rfl⟩
  | some e =>
    simp only
    generalize sheetAttributes e = attributes
    obtain ⟨media, title⟩ := attributes
    simp only [exec_edit_bind, ModelM.createSheet, ModelM.exec_update]
    refine ⟨[.createSheet href media .author,
      .setOwner (d.model.createSheet href media .author).2 (some n) title], ?_⟩
    rw [List.foldl_cons, List.foldl_cons, List.foldl_nil, Edit.apply, Edit.apply,
      ModelM.createSheet, ModelM.exec_update]
    simp only
    generalize (ModelM.setOwner _ (some n) title).exec _ = run
    obtain ⟨x, m⟩ := run
    cases x <;> rfl

theorem snd_exec_addStyleElement (n : NodeId) (text : String) (d : Document) :
    ∃ (es : List Edit) (sheets : List SheetId), ((addStyleElement n text).exec d).2 =
      { d with model := es.foldl Edit.apply d.model, sheets } := by
  obtain ⟨es, hes⟩ := snd_exec_addSheet n none d
  rw [addStyleElement, exec_bind]
  generalize (addSheet n none).exec d = added at hes ⊢
  obtain ⟨x, d'⟩ := added
  obtain rfl : d' = _ := hes
  cases x with
  | error e => exact ⟨es, d.sheets, rfl⟩
  | ok s =>
    refine ⟨es ++ [.replaceRules s text], ?_⟩
    simp only [exec_edit_bind, List.foldl_append, List.foldl_cons, List.foldl_nil, Edit.apply]
    generalize (ModelM.replaceRules s text).exec _ = run
    obtain ⟨x, m⟩ := run
    cases x with
    | error e => exact ⟨d.sheets, rfl⟩
    | ok u => exact ⟨d.sheets ++ [s], rfl⟩

/-- The loads of a document are those that there were, and maybe one for a sheet of a link. -/
theorem snd_exec_addLinked (n : NodeId) (d : Document) :
    ∃ (es : List Edit) (sheets : List SheetId) (loads : LoadQueue LoadTarget),
      ((addLinked n).exec d).2 =
        { d with model := es.foldl Edit.apply d.model, sheets, loads } ∧
      (d.discarded → loads = d.loads) ∧
      ∀ l ∈ loads.pending, (∃ l₀ ∈ d.loads.pending, l.target = l₀.target ∧ l.url = l₀.url) ∨
        ∃ s, l.target = .linked s := by
  have hsame : ∀ l ∈ d.loads.pending, (∃ l₀ ∈ d.loads.pending, l.target = l₀.target ∧
      l.url = l₀.url) ∨ ∃ s, l.target = .linked s := fun l hl => .inl ⟨l, hl, rfl, rfl⟩
  rw [addLinked, exec_element_bind]
  cases d.dom.element? n with
  | none => exact ⟨[], d.sheets, d.loads, rfl, fun _ => rfl, hsame⟩
  | some e =>
    simp only [exec_bind, exec_get]
    generalize (resolveHref _ _).toOption = resolved
    obtain ⟨es, hes⟩ := snd_exec_addSheet n
      (some ((resolved.map Url.text).getD ((e.attribute? "href").getD ""))) d
    generalize (addSheet n _).exec d = added at hes ⊢
    obtain ⟨x, d'⟩ := added
    obtain rfl : d' = _ := hes
    cases x with
    | error e => exact ⟨es, d.sheets, d.loads, rfl, fun _ => rfl, hsame⟩
    | ok s =>
      simp only [exec_modify]
      cases resolved with
      | none => exact ⟨es, d.sheets ++ [s], d.loads, rfl, fun _ => rfl, hsame⟩
      | some url =>
        simp only [exec_bind, loadLinked, exec_modify]
        split
        · exact ⟨es, d.sheets ++ [s], d.loads, rfl, fun _ => rfl, hsame⟩
        · rename_i hd
          refine ⟨es, d.sheets ++ [s], _, rfl, fun hd' => absurd hd' hd, fun l hl => ?_⟩
          obtain ⟨l₀, hl₀, ht, hurl⟩ := LoadQueue.exists_of_mem_declare hl
          rcases List.mem_append.1 hl₀ with hl₀ | hl₀
          · exact .inl ⟨l₀, hl₀, ht, hurl⟩
          · rw [List.mem_singleton.1 hl₀] at ht
            exact .inr ⟨s, ht⟩

end DocumentM

namespace Document

variable {d d' : Document} {m : ObjectModel} {s p : SheetId} {r : RuleId} {sheet : StyleSheet}
  {href : String} {url : Url} {l : PendingLoad LoadTarget} {text : String}

/-! ### Results of loads -/

namespace Guarded

/-- A sheet is given rules. -/
theorem fillLinked (h : d.Guarded) (hw : (d.fillLinked s text).2.model.Unwrapped) :
    (d.fillLinked s text).2.Guarded ∧ d.model.Keeps (d.fillLinked s text).2.model := by
  have heq : (d.fillLinked s text).2 =
      { d with model := (ObjectModel.Edit.replaceRules s text).apply d.model } := by
    rw [fillLinked_eq, ObjectModel.Edit.apply]
    generalize (ModelM.replaceRules s text).exec d.model = run
    obtain ⟨x, m⟩ := run
    cases x <;> rfl
  rw [heq] at hw ⊢
  have hi := h.model.forest.inherits_apply (.replaceRules s text) hw
  exact ⟨h.editModel (h.model.edit _ hw) hi, (ObjectModel.Reports.of_inherits hi).toKeeps⟩

/-- An import is given a sheet of the address that it was to be loaded from. -/
theorem fillImport (h : d.Guarded) (hw : d.model.Unwrapped) (ha : d.Admits r url)
    (hopen : d.model.MayOpen r) (hw' : (d.fillImport r url.text text).2.model.Unwrapped) :
    (d.fillImport r url.text text).2.Guarded ∧
      d.model.Keeps (d.fillImport r url.text text).2.model := by
  rw [Document.fillImport] at hw' ⊢
  cases hparent : ((d.model.rule? r).bind (·.parentSheet)).bind d.model.sheet? with
  | none => exact ⟨h, .refl _⟩
  | some parent =>
    obtain ⟨p, hp, hsheet⟩ := Option.bind_eq_some_iff.1 hparent
    obtain ⟨rule, hr, hp⟩ := Option.bind_eq_some_iff.1 hp
    obtain ⟨href, media, hcontent⟩ := hopen.2 rule hr
    have hfill := h.model.forest.sound.exec_fill hw.sheets url.text text parent.origin
      (rfl : d.model.createSheet (some url.text) "" parent.origin = _) hr hcontent
    have hkept := h.model.exec_fill hw.sheets hr hcontent hp url.text text parent.origin
      (rfl : d.model.createSheet (some url.text) "" parent.origin = _)
    rw [hparent] at hw'
    simp only [edit_eq] at hw' ⊢
    generalize d.model.createSheet (some url.text) "" parent.origin = created at *
    obtain ⟨m₁, s⟩ := created
    simp only at hfill hkept hw' ⊢
    generalize ModelM.exec _ m₁ = run at *
    obtain ⟨x, m⟩ := run
    cases x with
    | error e =>
      have hremoved := ObjectModel.rewires_removeSheet (m := m) s
      have hwm : m.Unwrapped :=
        ⟨hw'.sheets.of_grows hremoved.sheetsGrow, hw'.rules.of_grows hremoved.rulesGrow⟩
      obtain ⟨m', heq, -⟩ := hfill hwm
      simp at heq
    | ok u =>
      obtain ⟨m', heq, hfills⟩ := hfill hw'
      obtain rfl : m = m' := congrArg Prod.snd heq
      obtain ⟨hreports, hrooted⟩ := hkept hw'
      refine ⟨h.reports hrooted hreports rfl rfl (fun x sheet' hx hfresh => ?_)
        (fun l hl r ht => ⟨l, hl, ht, rfl⟩) h.idle, hreports.toKeeps⟩
      -- the only new sheet is that of the import
      have hxs : x = s := by
        by_contra hne
        have hsame := hfills.other (.sheet x) (fun heq => hne (ModelPart.sheet.inj heq))
          (by rintro ⟨⟩) (by rintro _ ⟨⟩)
        exact hfresh (Slots.issued_of_get? (Eq.trans (Eq.symm hsame) hx))
      subst hxs
      obtain ⟨ids, hfilled, -⟩ := hfills.fills.filled
      obtain rfl := Option.some.inj (hfilled.symm.trans hx)
      have hlive := hrooted.anchored.isSome_parent hfilled hp
      have haddresses : addresses { d with model := m } x = url.text :: d.addresses p := by
        rw [addresses_inner (d := { d with model := m }) hrooted hfilled hp,
          addresses_keeps (d := d) h.model hrooted hreports.toKeeps (by simp [hsheet]) hlive]
        rfl
      obtain ⟨hnew, hdepth⟩ := ha.fresh rule p hr hp
      rw [haddresses]
      exact ⟨List.nodup_cons.2 ⟨hnew, h.nodup p (by simp [hsheet])⟩, fun _ => hdepth⟩

/-- A load that is under way leaves addresses different when it is completed. -/
theorem complete_pending (h : d.Guarded) (hsteady : d.IsSteady) (hl : l ∈ d.loads.pending)
    (result : Except FetchError Response) (hw : (d.complete l.ticket result).2.model.Unwrapped) :
    (d.complete l.ticket result).2.Guarded ∧
      d.model.Keeps (d.complete l.ticket result).2.model := by
  have hd : d.discarded = false := by
    rw [← Bool.not_eq_true]
    intro hd
    simp [h.idle hd] at hl
  have hwithout := h.withoutLoad l.target
  have hsettle : ∀ (e : Encoding) (filled : Option SheetId × Document), filled.2.Guarded →
      d.model.Keeps filled.2.model →
      (settle e filled).Guarded ∧ d.model.Keeps (settle e filled).model := by
    rintro e ⟨x, d'⟩ hg hk
    cases x with
    | none => exact ⟨hg, hk⟩
    | some s =>
      have hset : { d' with encodings := d'.encodings.insert s e }.Guarded :=
        hg.congr rfl rfl rfl (fun l hl r ht => ⟨l, hl, ht, rfl⟩) hg.idle
      exact ⟨hset.notice true, by rw [settle, model_notice]; exact hk.takeChanges⟩
  rw [snd_complete hsteady.wired.loads hsteady.noticed hd hl result] at hw ⊢
  generalize (result.mapError LoadError.fetch).bind _ = read at *
  cases read with
  | error e => exact ⟨hwithout, .refl _⟩
  | ok t =>
    simp only at hw ⊢
    have hw' : ((d.withoutLoad l.target).fill l.url t.text l.target).2.model.Unwrapped := by
      generalize (d.withoutLoad l.target).fill l.url t.text l.target = filled at hw ⊢
      obtain ⟨x, d'⟩ := filled
      cases x with
      | none => exact hw
      | some s =>
        have hset := unwrapped_of_notice hw
        exact hset
    cases ht : l.target with
    | linked s =>
      rw [ht] at hw' hwithout
      obtain ⟨hg, hk⟩ := hwithout.fillLinked hw'
      exact hsettle _ _ hg hk
    | imported r =>
      have ha : (d.withoutLoad l.target).Admits r l.url :=
        (h.loads l hl r ht).reports h.model hwithout.model (.refl _) rfl rfl
      have hopen := hsteady.wired.imported r (ht ▸ LoadQueue.mem_targets hl)
      rw [ht] at hw' hwithout ha
      obtain ⟨hg, hk⟩ := hwithout.fillImport hsteady.unwrapped ha hopen hw'
      exact hsettle _ _ hg hk

theorem complete (h : d.Guarded) (hwired : d.Wired) (hc : d.Coherent) (hw : d.model.Unwrapped)
    (ticket : Nat) (result : Except FetchError Response)
    (hw' : (d.complete ticket result).2.model.Unwrapped) :
    (d.complete ticket result).2.Guarded := by
  have hsteady := IsSteady.sync hwired hc hw
  have h' : d.sync.Guarded := h.notice false
  rcases snd_complete_sync hsteady.wired.loads ticket result with heq | ⟨l, hl, -, heq⟩
  · rwa [heq]
  · rw [heq] at hw' ⊢
    exact (h'.complete_pending hsteady hl result hw').1

theorem apply (h : d.Guarded) (hwired : d.Wired) (hc : d.Coherent) (hw : d.model.Unwrapped)
    (a : Action) (ha : ¬ a.AttachesImport) (hw' : (a.apply d).model.Unwrapped) :
    (a.apply d).Guarded := by
  have hloads : ∀ l ∈ d.loads.pending, ∀ r, l.target = .imported r →
      ∃ l₀ ∈ d.loads.pending, l₀.target = .imported r ∧ l.url = l₀.url :=
    fun l hl _ ht => ⟨l, hl, ht, rfl⟩
  have hedits : ∀ es : List ObjectModel.Edit,
      (es.foldl ObjectModel.Edit.apply d.model).Unwrapped →
        { d with model := es.foldl ObjectModel.Edit.apply d.model }.Guarded := fun es hw =>
    have hmodel := h.model.edits es hw
    h.editModel hmodel.1 hmodel.2
  cases a with
  | editDom e => exact h.congr rfl rfl rfl hloads h.idle
  | editModel e => exact hedits [e] hw'
  | attachImport r s => exact absurd trivial ha
  | addStyleElement n text =>
    obtain ⟨es, sheets, heq⟩ := DocumentM.snd_exec_addStyleElement n text d
    rw [Action.apply, heq] at hw' ⊢
    exact (hedits es hw').congr rfl rfl rfl hloads h.idle
  | addLinked n =>
    obtain ⟨es, sheets, loads, heq, hdiscarded, hmem⟩ := DocumentM.snd_exec_addLinked n d
    rw [Action.apply, heq] at hw' ⊢
    refine (hedits es hw').congr rfl rfl rfl (fun l hl r ht => ?_) fun hd => ?_
    · rcases hmem l hl with ⟨l₀, hl₀, ht₀, hurl⟩ | ⟨s, hs⟩
      · exact ⟨l₀, hl₀, ht₀.symm.trans ht, hurl⟩
      · exact LoadTarget.noConfusion (hs.symm.trans ht)
    · rw [hdiscarded hd]
      exact h.idle hd
  | removeStyleSheet s =>
    have hremoved := hedits [.removeSheet s]
    rw [Action.apply, DocumentM.removeStyleSheet, DocumentM.exec_edit_bind] at hw' ⊢
    simp only [List.foldl_cons, List.foldl_nil, ObjectModel.Edit.apply] at hremoved
    generalize (ModelM.removeSheet s).exec d.model = run at *
    obtain ⟨x, m⟩ := run
    cases x with
    | error e => exact hremoved hw'
    | ok u =>
      have hw₁ : m.Unwrapped := unwrapped_of_notice hw'
      have hforgot : { d with model := m, sheets := d.sheets.filter (· != s) }.Guarded :=
        (hremoved hw₁).congr rfl rfl rfl hloads h.idle
      exact hforgot.notice false
  | pendingLoads => exact h.notice false
  | complete ticket result => exact h.complete hwired hc hw ticket result hw'
  | setLayout layout => exact h.congr rfl rfl rfl hloads h.idle
  | setCharset label =>
    rw [Action.apply, setCharset]
    generalize (Encoding.ofLabel? (Text.trim label)).getD d.encoding = encoding
    exact h.congr rfl rfl rfl hloads h.idle
  | discard => exact h.congr rfl rfl rfl (fun _ hl => absurd hl List.not_mem_nil) fun _ => rfl
  | updateInline n f =>
    rw [Action.apply, DocumentM.updateInline, DocumentM.exec_element_bind]
    cases d.dom.element? n with
    | none => exact h
    | some e => exact h.congr rfl rfl rfl hloads h.idle
  | computedStyle n pseudo =>
    have hsync := h.notice false
    rw [Action.apply, Document.computedStyle]
    split
    · exact hsync
    · have hsame : ∀ l ∈ d.sync.loads.pending, ∀ r, l.target = .imported r →
          ∃ l₀ ∈ d.sync.loads.pending, l₀.target = .imported r ∧ l.url = l₀.url :=
        fun l hl _ ht => ⟨l, hl, ht, rfl⟩
      refine hsync.congr ?_ ?_ ?_ ?_ ?_
      all_goals
        rw [refreshInline]
        split
      all_goals first | rfl | exact hsame | exact hsync.idle

end Guarded

theorem exists_initialModel_eq (settings : DocumentSettings) : ∃ es : List ObjectModel.Edit,
    (initialModel settings).1 =
      { es.foldl ObjectModel.Edit.apply (.empty settings.compatibility) with changes := [] } := by
  rw [initialModel]
  cases settings.userAgent with
  | none => exact ⟨[], rfl⟩
  | some text =>
    exact ⟨[.createSheet none "" .userAgent, .replaceRules
      ((ObjectModel.empty settings.compatibility).createSheet none "" .userAgent).2 text], rfl⟩

theorem guarded_new (url : Option String) (settings : DocumentSettings)
    (hw : (new url settings).model.Unwrapped) : (new url settings).Guarded := by
  obtain ⟨es, heq⟩ := exists_initialModel_eq settings
  have hmodel : (new url settings).model = _ := heq
  obtain ⟨hrooted, hi⟩ := (ObjectModel.rooted_empty settings.compatibility).edits es
    (by rw [hmodel] at hw; exact ⟨hw.sheets, hw.rules⟩)
  have houter : ∀ s sheet, (new url settings).model.sheet? s = some sheet →
      sheet.parentSheet = none := by
    intro s sheet hs
    rw [hmodel] at hs
    rcases hi.parent s sheet hs with ⟨old, hold, -⟩ | ⟨-, hp⟩
    · simp [ObjectModel.sheet?, ObjectModel.empty, Slots.get?_empty] at hold
    · exact hp
  refine ⟨hmodel ▸ hrooted.takeChanges, fun s hs => ?_, fun s sheet hs hp => ?_,
    fun l hl => absurd hl List.not_mem_nil, fun _ => rfl⟩
  · obtain ⟨sheet, hs⟩ := Option.isSome_iff_exists.1 hs
    rw [addresses_outer hs (houter s sheet hs)]
    cases sheet.href <;> simp
  · simp [houter s sheet hs] at hp

/-- The addresses around sheets are different, whatever was done, but for giving sheets to
imports. -/
theorem Reached.guarded (h : Reached (fun d a => a.IsProper d ∧ ¬ a.AttachesImport) d) :
    d.Guarded := by
  induction h with
  | new url settings hw => exact guarded_new url settings hw
  | act h ha hw ih =>
    obtain ⟨hc, hw₀⟩ := h.coherent fun _ _ ha => ha.1
    exact ih.apply h.wired hc hw₀ _ ha.2 hw

end Document
end WebStyle

namespace WebStyle.Document

/-! ### What imports are given -/

variable {d : Document} {l : PendingLoad LoadTarget} {r : RuleId}

theorem complete_sync (d : Document) (ticket : Nat) (result : Except FetchError Response) :
    d.sync.complete ticket result = d.complete ticket result := by
  have hsync : d.sync.sync = d.sync := notice_of_nil d.sync false (changes_notice d false)
  rw [Document.complete, Document.complete, hsync]

theorem fillImport_of_isGone (h : d.IsGone (.imported r)) (url text : String) :
    d.fillImport r url text = (none, d) := by
  have hparent : ((d.model.rule? r).bind (·.parentSheet)).bind d.model.sheet? = none := h
  rw [fillImport, hparent]

/-- No result is of use for what is gone. -/
theorem IsSteady.not_isGone (h : d.IsSteady) (hd : d.discarded = false)
    (hl : l ∈ d.loads.pending) (ht : l.target = .imported r) {result : Except FetchError Response}
    (hdone : (d.complete l.ticket result).1 = true) : ¬ d.IsGone (.imported r) := by
  intro hgone
  rw [fst_complete h.wired.loads h.noticed hd hl] at hdone
  split at hdone
  · exact Bool.false_ne_true hdone
  · have hwithout : (d.withoutLoad l.target).IsGone (.imported r) := hgone
    rw [ht] at hdone hwithout
    simp [fill, fillImport_of_isGone hwithout] at hdone

/-- A result of use for an import is from the address that its `href` leads to as it is, unless
nothing may be loaded from there. -/
theorem Reached.importUrl_of_complete
    (h : Reached (fun d a => a.IsProper d ∧ ¬ a.AttachesImport) d)
    (hl : l ∈ d.sync.loads.pending) (ht : l.target = .imported r)
    {result : Except FetchError Response} (hdone : (d.complete l.ticket result).1 = true) :
    ∃ rule p href, d.model.rule? r = some rule ∧ rule.parentSheet = some p ∧
      rule.content.href? = some href ∧
      (d.importUrl p href = .ok l.url ∨ ∃ e, d.importUrl p href = .error e) := by
  obtain ⟨hc, hw⟩ := h.coherent fun _ _ ha => ha.1
  have hsteady := IsSteady.sync h.wired hc hw
  have hguarded : d.sync.Guarded := h.guarded.notice false
  have hd : d.sync.discarded = false := by
    rw [← Bool.not_eq_true]
    intro hd
    simp [hguarded.idle hd] at hl
  rw [← complete_sync] at hdone
  have hgone := hsteady.not_isGone hd hl ht hdone
  have hrules : d.sync.model.rule? r = d.model.rule? r := by
    rw [sync, model_notice]
    rfl
  cases hr : d.model.rule? r with
  | none => simp [IsGone, hrules, hr] at hgone
  | some rule =>
    cases hp : rule.parentSheet with
    | none => simp [IsGone, hrules, hr, hp] at hgone
    | some p =>
      have hr' := hrules.trans hr
      obtain ⟨href, media, hcontent⟩ :=
        (hsteady.wired.imported r (ht ▸ LoadQueue.mem_targets hl)).2 rule hr'
      have hhref : rule.content.href? = some href := by rw [hcontent]; rfl
      have hcurrent := (hguarded.loads l hl r ht).current rule p hr' hp
        (fun s => by simp [hsteady.noticed]) href
      refine ⟨rule, p, href, rfl, hp, hhref, ?_⟩
      rw [← importUrl_notice d false]
      cases hurl : (d.notice false).importUrl p href with
      | error e => exact .inr ⟨e, rfl⟩
      | ok url => exact .inl (congrArg _ (hcurrent url hhref hurl))

theorem reached_importing :
    Reached (fun d a => a.IsProper d ∧ ¬ a.AttachesImport) importing := by
  have hnew : Reached (fun d a => a.IsProper d ∧ ¬ a.AttachesImport)
      (new none ⟨.screen 800.0 600.0, .standard, none, .full⟩) := .new _ _ (by decide +kernel)
  refine hnew.foldl (fun a ha d => ?_) (by decide +kernel)
  simp only [List.mem_cons, List.not_mem_nil, or_false] at ha
  rcases ha with rfl | rfl | rfl <;> exact ⟨trivial, id⟩

theorem importUrl_of_complete_importing : ∃ l ∈ importing.sync.loads.pending,
    l.target = .imported ⟨0, 0⟩ ∧ (importing.complete l.ticket (shelf l.url)).1 = true ∧
      ∃ rule p href, importing.model.rule? ⟨0, 0⟩ = some rule ∧ rule.parentSheet = some p ∧
        rule.content.href? = some href ∧
        (importing.importUrl p href = .ok l.url ∨ ∃ e, importing.importUrl p href = .error e) := by
  obtain ⟨l, hl, ht, hdone⟩ : ∃ l ∈ importing.sync.loads.pending, l.target = .imported ⟨0, 0⟩ ∧
      (importing.complete l.ticket (shelf l.url)).1 = true := by decide +kernel
  exact ⟨l, hl, ht, hdone, reached_importing.importUrl_of_complete hl ht hdone⟩

/-- The first import is changed while it is loaded. Nothing may be loaded from where it leads to
then. -/
def reworded : Document :=
  [Action.pendingLoads, .editModel (.setRuleText ⟨0, 0⟩ "@import url();")].foldl
    Action.apply importing

/-- The sheet that was asked for before is given to the import all the same. -/
theorem complete_reworded : Reached (fun d a => a.IsProper d ∧ ¬ a.AttachesImport) reworded ∧
    ∃ l ∈ reworded.sync.loads.pending, l.target = .imported ⟨0, 0⟩ ∧
      (reworded.complete l.ticket (shelf l.url)).1 = true ∧
      ∃ rule p href, reworded.model.rule? ⟨0, 0⟩ = some rule ∧ rule.parentSheet = some p ∧
        rule.content.href? = some href ∧
        resolveHref ((reworded.address? p).or (reworded.url.map Url.text)) href ≠ .ok l.url := by
  refine ⟨?_, ?_⟩
  · have hpending := reached_importing.act (a := .pendingLoads) ⟨trivial, id⟩ (by decide +kernel)
    exact hpending.act (a := .editModel (.setRuleText ⟨0, 0⟩ "@import url();")) ⟨trivial, id⟩
      (by decide +kernel)
  · obtain ⟨l, hl, ht, hdone⟩ : ∃ l ∈ reworded.sync.loads.pending, l.target = .imported ⟨0, 0⟩ ∧
        (reworded.complete l.ticket (shelf l.url)).1 = true := by decide +kernel
    obtain ⟨rule, hr⟩ := Option.isSome_iff_exists.1
      (show (reworded.model.rule? ⟨0, 0⟩).isSome by decide +kernel)
    have hp : (reworded.model.rule? ⟨0, 0⟩).bind (·.parentSheet) = some ⟨0, 0⟩ := by decide +kernel
    have hhref : (reworded.model.rule? ⟨0, 0⟩).bind (·.content.href?) = some "" := by decide +kernel
    have hurl :
        (resolveHref ((reworded.address? ⟨0, 0⟩).or (reworded.url.map Url.text)) "").toOption =
          none := by decide +kernel
    rw [hr] at hp hhref
    refine ⟨l, hl, ht, hdone, rule, ⟨0, 0⟩, "", hr, hp, hhref, fun hok => ?_⟩
    simp [hok, Except.toOption] at hurl

end WebStyle.Document
