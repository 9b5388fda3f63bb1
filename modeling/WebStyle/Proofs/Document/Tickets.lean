import WebStyle.Proofs.Document.Actions
import WebStyle.Proofs.Document.Requests
/-!
Tickets of loads over whole runs. A ticket stands for one load for good, its result is taken once
at most, and nothing is loaded for a document that was given up. Nothing is asked of the tree and of
the object model here: they may change in any way.
-/
set_option autoImplicit false

namespace WebStyle
namespace Document

variable {d d' d'' : Document}

/-! ### What each step does to the loads -/

/-- Whether a document may come after another one, as far as loads are concerned: none comes in for
a document that was given up. -/
structure LeadsTo (d d' : Document) : Prop where
  loads : d.loads.LeadsTo d'.loads
  discarded : d.discarded = true → d'.discarded = true
  idle : d.discarded = true → d.loads.pending = [] → d'.loads.pending = []

namespace LeadsTo

theorem trans (h : d.LeadsTo d') (h' : d'.LeadsTo d'') : d.LeadsTo d'' where
  loads := h.loads.trans h'.loads
  discarded hd := h'.discarded (h.discarded hd)
  idle hd hl := h'.idle (h.discarded hd) (h.idle hd hl)

/-- Most of a document has nothing to do with its loads. -/
theorem of_eq (hl : d'.loads = d.loads) (hd : d'.discarded = d.discarded) : d.LeadsTo d' :=
  ⟨hl ▸ .refl d.loads, fun h => hd.trans h, fun _ h => hl ▸ h⟩

theorem refl (d : Document) : d.LeadsTo d := of_eq rfl rfl

/-- Loads may be given up at any time. -/
theorem of_filter (p : PendingLoad LoadTarget → Bool) (hl : d'.loads = d.loads.filter p)
    (hd : d'.discarded = d.discarded) : d.LeadsTo d' :=
  ⟨hl ▸ .filter d.loads p, fun h => hd.trans h, fun _ h => by simp [hl, LoadQueue.filter, h]⟩

/-- Loads come in as long as the document was not given up. -/
theorem of_loads {loads : LoadQueue LoadTarget} (hd : d.discarded = false)
    (hl : d.loads.LeadsTo loads) : d.LeadsTo { d with loads } :=
  ⟨hl, id, fun h => absurd h (by simp [hd])⟩

theorem schedule (front : Bool) (d : Document) (i : SheetId × RuleId) :
    d.LeadsTo (d.schedule front i) := by
  rcases schedule_eq front d i with ⟨-, heq⟩ | ⟨url, referrer, hrequest, heq⟩
  · rw [heq]
    exact .refl d
  · have hd : d.discarded = false := by
      cases hd : d.discarded with
      | false => rfl
      | true => simp [importRequest?, hd] at hrequest
    rw [heq]
    refine of_loads hd ((LoadQueue.LeadsTo.filter d.loads (·.target != .imported i.2)).trans ?_)
    split
    · exact .pushFront _ _ _ _
    · exact .pushBack _ _ _ _

theorem foldl_schedule (front : Bool) (l : List (SheetId × RuleId)) (d : Document) :
    d.LeadsTo (l.foldl (Document.schedule front) d) := by
  induction l generalizing d with
  | nil => exact .refl d
  | cons i l ih => exact (schedule front d i).trans (ih _)

theorem dropRemoved (d : Document) (removed : List SheetId) :
    d.LeadsTo (d.dropRemoved removed) := by
  cases removed with
  | nil => exact .refl d
  | cons s l => exact of_filter _ rfl rfl

theorem notice (d : Document) (first : Bool) : d.LeadsTo (d.notice first) := by
  by_cases hch : d.model.changes = []
  · rw [notice_of_nil d first hch]
    exact .refl d
  · rw [notice_eq d first hch]
    have hcleared : d.LeadsTo
        { d with model := { d.model with changes := [] }, cache := .empty } := of_eq rfl rfl
    exact (hcleared.trans (dropRemoved _ _)).trans (foldl_schedule _ _ _)

theorem discard (d : Document) : d.LeadsTo d.discard :=
  ⟨.clear d.loads, fun _ => rfl, fun _ _ => rfl⟩

theorem refreshInline (d : Document) : d.LeadsTo d.refreshInline := by
  rw [Document.refreshInline]
  split
  · exact .refl d
  · exact of_eq rfl rfl

theorem computedStyle (d : Document) (n : NodeId) (pseudo : Option PseudoElement) :
    d.LeadsTo (d.computedStyle n pseudo).2 := by
  simp only [Document.computedStyle]
  split
  · exact notice d false
  · have hvalid : d.sync.LeadsTo
        { d.sync with cache := (d.sync.cache.validate d.sync.dom.generation).1 } := of_eq rfl rfl
    have hinline := ((notice d false).trans hvalid).trans (refreshInline _)
    generalize Document.refreshInline _ = d₁ at hinline ⊢
    generalize (d₁.styleContext.computedStyleM n pseudo).run d₁.cache = styled
    exact hinline.trans (of_eq rfl rfl)

end LeadsTo

end Document

/-! ### Requests -/

namespace DocumentM

variable {α β : Type}

/-- Whether the document after a request may come after the one before it. -/
def Leads (f : DocumentM α) : Prop := ∀ d : Document, d.LeadsTo (f.exec d).2

namespace Leads

theorem bind {f : DocumentM α} {g : α → DocumentM β} (hf : Leads f) (hg : ∀ a, Leads (g a)) :
    Leads (f >>= g) := by
  intro d
  have hd := hf d
  rw [exec_bind]
  generalize f.exec d = run at hd ⊢
  obtain ⟨x, d'⟩ := run
  cases x with
  | ok a => exact hd.trans (hg a d')
  | error e => exact hd

theorem of_pure (a : α) : Leads (pure a : DocumentM α) := fun d => .refl d

theorem of_get : Leads (get : DocumentM Document) := fun d => .refl d

theorem of_modify {f : Document → Document} (hf : ∀ d : Document, d.LeadsTo (f d)) :
    Leads (modify f : DocumentM PUnit) := hf

theorem of_edit (f : ModelM α) : Leads (edit f) := by
  intro d
  rw [exec_edit]
  generalize f.exec d.model = run
  obtain ⟨x, m⟩ := run
  cases x <;> exact .of_eq rfl rfl

theorem of_element (n : NodeId) : Leads (element n) := by
  intro d
  have h := exec_element_bind (d := d) n (fun e => (pure e : DocumentM Element))
  rw [bind_pure] at h
  rw [h]
  cases d.dom.element? n <;> exact .refl d

theorem addSheet (n : NodeId) (href : Option String) : Leads (addSheet n href) :=
  (of_element n).bind fun _ => (of_edit _).bind fun s => (of_edit _).bind fun _ => of_pure s

/-- The list of the document's sheets has nothing to do with its loads. -/
theorem modify_sheets (f : List SheetId → List SheetId) :
    Leads (modify fun d => { d with sheets := f d.sheets } : DocumentM PUnit) :=
  of_modify fun _ => .of_eq rfl rfl

theorem addStyleElement (n : NodeId) (text : String) : Leads (addStyleElement n text) :=
  (addSheet n none).bind fun s => (of_edit _).bind fun _ =>
    (modify_sheets (· ++ [s])).bind fun _ => of_pure s

theorem loadLinked (s : SheetId) (url : Url) (charset : Option String) :
    Leads (loadLinked s url charset) := by
  refine of_modify fun d => ?_
  split
  · exact .refl d
  · rename_i hd
    exact .of_loads (by simpa using hd) (.pushBack_declare d.loads url _ _ charset)

theorem addLinked (n : NodeId) : Leads (addLinked n) := by
  refine (of_element n).bind fun e => of_get.bind fun d => (addSheet n _).bind fun s =>
    (modify_sheets (· ++ [s])).bind fun _ => ?_
  split
  · exact (loadLinked s _ _).bind fun _ => of_pure s
  · exact of_pure s

theorem removeStyleSheet (s : SheetId) : Leads (removeStyleSheet s) := by
  refine (of_edit _).bind fun _ => of_modify fun d => ?_
  have hsheets : d.LeadsTo { d with sheets := d.sheets.filter (· != s) } := .of_eq rfl rfl
  exact hsheets.trans (.notice _ false)

theorem modify_dom (f : Dom → Dom) :
    Leads (modify fun d => { d with dom := f d.dom } : DocumentM PUnit) :=
  of_modify fun _ => .of_eq rfl rfl

theorem updateInline (n : NodeId) (f : DeclarationBlock → DeclarationBlock × α) :
    Leads (updateInline n f) := by
  refine (of_element n).bind fun _ => of_get.bind fun d => ?_
  cases f (d.inlineBlock n) with
  | mk block a => exact (modify_dom (·.setAttribute n "style" block.text)).bind fun _ => of_pure a

end Leads
end DocumentM

namespace Document

variable {d d' d'' : Document}

/-! ### Results of loads -/

namespace LeadsTo

theorem edit {α : Type} (d : Document) (f : ModelM α) : d.LeadsTo (d.edit f).2 := of_eq rfl rfl

theorem fill (d : Document) (url : Url) (text : String) (target : LoadTarget) :
    d.LeadsTo (d.fill url text target).2 := by
  cases target with
  | linked s => exact edit d (ModelM.replaceRules s text)
  | imported r =>
    simp only [Document.fill, fillImport]
    cases ((d.model.rule? r).bind (·.parentSheet)).bind d.model.sheet? with
    | none => exact .refl d
    | some parent =>
      simp only [edit_eq]
      generalize ModelM.exec _ _ = run
      obtain ⟨x, m⟩ := run
      cases x <;> exact of_eq rfl rfl

end LeadsTo

section Complete

variable {ticket : Nat} {result : Except FetchError Response}

/-- The result of a load is passed over, or the load is taken out and its result read. -/
theorem complete_cases (d : Document) (ticket : Nat) (result : Except FetchError Response) :
    d.complete ticket result = (false, d.sync) ∨
      d.sync.discarded = false ∧
        { d.sync with loads := (d.sync.loads.take ticket).1 }.LeadsTo
          (d.complete ticket result).2 := by
  rw [complete]
  generalize d.sync = d
  simp only
  split
  · exact .inl rfl
  · rename_i hd
    split
    · exact .inl rfl
    · rename_i loads load htake
      refine .inr ⟨by simpa using hd, ?_⟩
      rw [htake]
      split
      · exact .refl _
      · rename_i sheet _
        have hfill := LeadsTo.fill { d with loads } load.url sheet.text load.target
        generalize Document.fill _ load.url sheet.text load.target = filled at hfill ⊢
        obtain ⟨x, d₁⟩ := filled
        cases x with
        | none => exact hfill
        | some s =>
          have hencodings : d₁.LeadsTo
              { d₁ with encodings := d₁.encodings.insert s sheet.encoding } := .of_eq rfl rfl
          exact (hfill.trans hencodings).trans (.notice _ true)

theorem LeadsTo.complete (d : Document) (ticket : Nat) (result : Except FetchError Response) :
    d.LeadsTo (d.complete ticket result).2 := by
  rcases complete_cases d ticket result with heq | ⟨hd, h⟩
  · rw [heq]
    exact .notice d false
  · have htake := LeadsTo.of_loads hd (LoadQueue.LeadsTo.take d.sync.loads ticket)
    exact ((LeadsTo.notice d false).trans htake).trans h

/-- A result for a ticket that is not pending is passed over. -/
theorem complete_of_notMem (h : ticket ∉ d.sync.loads.pending.map (·.ticket)) :
    d.complete ticket result = (false, d.sync) := by
  rw [complete]
  generalize d.sync = d at h ⊢
  simp only [LoadQueue.take_of_notMem h]
  split <;> rfl

/-- A result that was of use is that of a load that is not pending any more. -/
theorem ticket_of_complete (hq : d.loads.Ticketed) (h : (d.complete ticket result).1 = true) :
    ticket < (d.complete ticket result).2.loads.next ∧
      ticket ∉ (d.complete ticket result).2.loads.pending.map (·.ticket) := by
  have hq' := (LeadsTo.notice d false).loads.ticketed hq
  have hmem : ticket ∈ d.sync.loads.pending.map (·.ticket) := by
    by_contra hmem
    rw [complete_of_notMem hmem] at h
    cases h
  obtain ⟨l, hl, rfl⟩ := List.mem_map.1 hmem
  have hlt : l.ticket < d.sync.loads.next := hq'.given l hl
  rcases complete_cases d l.ticket result with heq | ⟨-, hlead⟩
  · rw [heq] at h
    cases h
  · have htake : (d.sync.loads.take l.ticket).1.next = d.sync.loads.next := by
      rw [LoadQueue.take]
      split <;> rfl
    refine ⟨Nat.lt_of_lt_of_le (htake ▸ hlt) hlead.loads.next_le, fun hmem => ?_⟩
    obtain ⟨l', hl', heq⟩ := List.mem_map.1 hmem
    have hold := hlead.loads.mem l' hl' (by rw [heq]; exact htake ▸ hlt)
    exact d.sync.loads.ticket_notMem_take l.ticket (List.mem_map.2 ⟨l', hold, heq⟩)

end Complete

/-- Loads are fetched one after the other, whatever the fetcher keeps and answers. -/
theorem LeadsTo.runFuel {σ : Type} (fetch : Url → StateM σ (Except FetchError Response))
    (fuel : Nat) (d : Document) (x : σ) : d.LeadsTo ((runFuel fetch fuel d).run x).1.2 := by
  induction fuel generalizing d x with
  | zero => exact .refl d
  | succ fuel ih =>
    rw [Document.runFuel]
    cases hfront : d.sync.loads.front? with
    | none => exact .notice d false
    | some l =>
      have hcomplete := LeadsTo.complete d.sync l.ticket ((fetch l.url).run x).1
      exact ((LeadsTo.notice d false).trans hcomplete).trans (ih _ ((fetch l.url).run x).2)

/-! ### Runs -/

/-- What can be done with a document. The tree and the object model may change in any way, and loads
may be fetched by anything that answers. -/
inductive Operation where
  | act (a : Action)
  | changeDom (f : Dom → Dom)
  | changeModel (f : ObjectModel → ObjectModel)
  | fetchLoads {σ : Type} (fetch : Url → StateM σ (Except FetchError Response)) (x : σ) (fuel : Nat)

def Operation.apply (d : Document) : Operation → Document
  | .act a => a.apply d
  | .changeDom f => { d with dom := f d.dom }
  | .changeModel f => { d with model := f d.model }
  | .fetchLoads fetch x fuel => ((runFuel fetch fuel d).run x).1.2

/-- The document after operations. -/
def after (d : Document) (ops : List Operation) : Document := ops.foldl Operation.apply d

namespace LeadsTo

theorem act (d : Document) (a : Action) : d.LeadsTo (a.apply d) := by
  cases a with
  | editDom e => exact of_eq rfl rfl
  | editModel e => exact of_eq rfl rfl
  | attachImport r s => exact edit d _
  | addStyleElement n text => exact DocumentM.Leads.addStyleElement n text d
  | addLinked n => exact DocumentM.Leads.addLinked n d
  | removeStyleSheet s => exact DocumentM.Leads.removeStyleSheet s d
  | pendingLoads => exact notice d false
  | complete ticket result => exact complete d ticket result
  | setLayout layout => exact of_eq rfl rfl
  | setCharset label =>
    rw [Action.apply, setCharset]
    generalize Encoding.ofLabel? _ = encoding
    exact of_eq rfl rfl
  | discard => exact discard d
  | updateInline n f => exact DocumentM.Leads.updateInline n _ d
  | computedStyle n pseudo => exact computedStyle d n pseudo

theorem apply (d : Document) (o : Operation) : d.LeadsTo (o.apply d) := by
  cases o with
  | act a => exact act d a
  | changeDom f => exact of_eq rfl rfl
  | changeModel f => exact of_eq rfl rfl
  | fetchLoads fetch x fuel => exact runFuel fetch fuel d x

theorem after (d : Document) (ops : List Operation) : d.LeadsTo (d.after ops) := by
  induction ops generalizing d with
  | nil => exact .refl d
  | cons o ops ih => exact (apply d o).trans (ih _)

theorem pendingLoads (d : Document) : d.LeadsTo d.pendingLoads.2 := notice d false

/-- What is not pending under a ticket that was given out will not be. -/
theorem ticket_notMem (h : d.LeadsTo d') {t : Nat} (hlt : t < d.loads.next)
    (hmem : t ∉ d.loads.pending.map (·.ticket)) : t ∉ d'.loads.pending.map (·.ticket) := by
  intro hmem'
  obtain ⟨l, hl, rfl⟩ := List.mem_map.1 hmem'
  exact hmem (List.mem_map.2 ⟨l, h.loads.mem l hl hlt, rfl⟩)

end LeadsTo

theorem ticketed_new (url : Option String) (settings : DocumentSettings) :
    (new url settings).loads.Ticketed := .of_nil rfl

theorem fst_pendingLoads (d : Document) : d.pendingLoads.1.map Prod.fst =
    d.pendingLoads.2.loads.pending.map (·.ticket) := by
  rw [pendingLoads, List.map_map]
  rfl

section Ticketed

variable (hq : d.loads.Ticketed)
include hq

/-- A ticket stands for one load, as long as that is pending. -/
theorem eq_of_ticket_eq (h : d.LeadsTo d') {l l' : PendingLoad LoadTarget}
    (hl : l ∈ d.loads.pending) (hl' : l' ∈ d'.loads.pending) (heq : l'.ticket = l.ticket) :
    l' = l := by
  have hold := h.loads.mem l' hl' (heq ▸ hq.given l hl)
  exact List.inj_on_of_nodup_map hq.tickets hold hl heq

/-- A result is of use once at most. -/
theorem complete_eq_false_of_complete {t : Nat} {r : Except FetchError Response}
    (h : (d.complete t r).1 = true) (hd' : (d.complete t r).2.LeadsTo d')
    (r' : Except FetchError Response) : (d'.complete t r').1 = false := by
  obtain ⟨hlt, hmem⟩ := ticket_of_complete hq h
  rw [complete_of_notMem ((hd'.trans (.notice d' false)).ticket_notMem hlt hmem)]

end Ticketed

/-- Nothing is pending for a document that was given up. -/
theorem loads_sync_of_discard (h : d.discard.LeadsTo d') : d'.sync.loads.pending = [] :=
  (h.trans (.notice d' false)).idle rfl rfl

/-- Whatever is done with a document: pending loads have different tickets, a ticket stands for one
load for good, results are of use once at most, and only while the ticket is pending. Nothing is
loaded for a document that was given up, and results for it change no sheet and no rule. -/
theorem tickets_of_run (url : Option String) (settings : DocumentSettings)
    (ops : List Operation) :
    let d := (new url settings).after ops
    (d.pendingLoads.1.map Prod.fst).Nodup ∧
    (∀ l ∈ d.pendingLoads.2.loads.pending, ∀ later : List Operation,
      let d' := (d.pendingLoads.2.after later).pendingLoads.2
      (∀ l' ∈ d'.loads.pending, l'.ticket = l.ticket → l' = l) ∧
      (l ∉ d'.loads.pending → ∀ more : List Operation,
        l.ticket ∉ (d'.after more).pendingLoads.1.map Prod.fst)) ∧
    (∀ t r, (d.complete t r).1 = true → ∀ (later : List Operation) r',
      (((d.complete t r).2.after later).complete t r').1 = false) ∧
    (∀ t r, t ∉ d.pendingLoads.1.map Prod.fst → d.complete t r = (false, d.sync)) ∧
    ∀ later : List Operation,
      let d' := d.discard.after later
      d'.pendingLoads.1 = [] ∧ ∀ t r, (d'.complete t r).1 = false ∧
        (d'.complete t r).2.model.sheets = d'.model.sheets ∧
        (d'.complete t r).2.model.rules = d'.model.rules ∧
        (d'.complete t r).2.appliedSheets = d'.appliedSheets := by
  intro d
  have hq : d.loads.Ticketed := (LeadsTo.after (new url settings) ops).loads.ticketed
    (ticketed_new url settings)
  have hq' : d.pendingLoads.2.loads.Ticketed := (LeadsTo.pendingLoads d).loads.ticketed hq
  refine ⟨?_, fun l hl later => ?_, fun t r h later r' => ?_, fun t r h => ?_, fun later => ?_⟩
  · rw [fst_pendingLoads]
    exact hq'.tickets
  · intro d'
    have hd' : d.pendingLoads.2.LeadsTo d' := (LeadsTo.after _ later).trans (.pendingLoads _)
    refine ⟨fun l' hl' => eq_of_ticket_eq hq' hd' hl hl', fun hgone more => ?_⟩
    have hlt : l.ticket < d'.loads.next := Nat.lt_of_lt_of_le (hq'.given l hl) hd'.loads.next_le
    have hmem : l.ticket ∉ d'.loads.pending.map (·.ticket) := by
      intro hmem
      obtain ⟨l', hl', heq⟩ := List.mem_map.1 hmem
      exact hgone (eq_of_ticket_eq hq' hd' hl hl' heq ▸ hl')
    rw [fst_pendingLoads]
    exact ((LeadsTo.after d' more).trans (.pendingLoads _)).ticket_notMem hlt hmem
  · exact complete_eq_false_of_complete hq h (.after _ later) r'
  · rw [fst_pendingLoads] at h
    exact complete_of_notMem h
  · intro d'
    have hnone : d'.sync.loads.pending = [] := loads_sync_of_discard (.after d.discard later)
    refine ⟨by rw [pendingLoads, hnone]; rfl, fun t r => ?_⟩
    rw [complete_of_notMem (by rw [hnone]; exact List.not_mem_nil)]
    have hmodel := model_notice (d := d') false
    exact ⟨rfl, by rw [sync, hmodel], by rw [sync, hmodel], (remains_notice d' false).appliedSheets⟩

/-- A linked sheet is filled once, and not at all once the document was given up. -/
theorem tickets_of_linked_run :
    let d := (new none ⟨.screen 800.0 600.0, .standard, none, .full⟩).after
      [.act (.editDom (.create (.element (.ofAttributes "link" [("href", "x:a")])))),
        .act (.addLinked ⟨1, 0⟩)]
    let r : Except FetchError Response := .ok (.ofText "a\x7bcolor:red\x7d")
    (d.complete 1 r).1 = true ∧ ((d.complete 1 r).2.complete 1 r).1 = false ∧
      d.complete 2 r = (false, d.sync) ∧ (d.discard.complete 1 r).1 = false := by
  intro d r
  have hused : (d.complete 1 r).1 = true := by decide +kernel
  have hother : 2 ∉ d.pendingLoads.1.map Prod.fst := by decide +kernel
  obtain ⟨-, -, honce, hnot, hdiscarded⟩ :=
    tickets_of_run none ⟨.screen 800.0 600.0, .standard, none, .full⟩
      [.act (.editDom (.create (.element (.ofAttributes "link" [("href", "x:a")])))),
        .act (.addLinked ⟨1, 0⟩)]
  exact ⟨hused, honce 1 r hused [] r, hnot 2 r hother, ((hdiscarded []).2 1 r).1⟩

end Document
end WebStyle
