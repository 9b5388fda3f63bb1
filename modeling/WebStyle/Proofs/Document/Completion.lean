import WebStyle.Proofs.Document.Futures
/-!
What the sheets will be does not change when a load is completed, whichever it is. So it makes no
difference in which order loads are completed.
-/
set_option autoImplicit false

namespace WebStyle.Document

variable {d d' : Document} {fetch : Url → Except FetchError Response} {s t : SheetId}

/-! ### Loads that come to nothing -/

section Without

variable {a : Arrivals} {x : LoadTarget}

theorem request?_withoutLoad (d : Document) (x t : LoadTarget) :
    (d.withoutLoad x).loads.request? t = if t = x then none else d.loads.request? t :=
  d.loads.request?_filter_target x t

/-- An import of which there is no sheet that it could be in gets nothing. -/
theorem arriving_of_isGone {r : RuleId} (h : d.IsGone (.imported r)) : d.arriving a r = none := by
  rw [arriving]
  cases d.loads.request? (.imported r) with
  | none => rfl
  | some q =>
    have hgone : ((d.model.rule? r).bind (·.parentSheet)).bind d.model.sheet? = none := h
    cases hp : (d.model.rule? r).bind (·.parentSheet) with
    | none => simp
    | some p =>
      rw [hp, Option.bind_some] at hgone
      simp [hgone]

theorem future_of_dead (hs : d.model.sheet? s = none) : d.future a s = none := by
  rw [future]
  split
  · rw [treeFuel, readSheet, hs, Option.map_none]
  · rw [hs, Option.map_none]

theorem read_withoutLoad (arriving : RuleId → Option SheetTree) (fuel : Nat) :
    (d.withoutLoad x).readSheet arriving fuel = d.readSheet arriving fuel ∧
      (d.withoutLoad x).readRule arriving fuel = d.readRule arriving fuel := by
  induction fuel with
  | zero => exact ⟨rfl, rfl⟩
  | succ fuel ih =>
    constructor
    · funext s
      rw [readSheet, readSheet, ih.2]
      rfl
    · funext r
      rw [readRule, readRule, ih.1, ih.2]
      rfl

/-- A load that comes to nothing was not for anything. -/
theorem future_withoutLoad (hx : (d.loads.request? x).bind a.read = none ∨ d.IsGone x)
    (s : SheetId) : (d.withoutLoad x).future a s = d.future a s := by
  by_cases hgone : d.IsGone x ∧ x = .linked s
  · obtain ⟨hdead, rfl⟩ := hgone
    rw [future_of_dead hdead, future_of_dead]
    exact hdead
  have hread : ∀ y, y ≠ x → (d.withoutLoad x).loads.request? y = d.loads.request? y :=
    fun y hy => by rw [request?_withoutLoad, if_neg hy]
  have hnone : (d.withoutLoad x).loads.request? x = none := by
    rw [request?_withoutLoad, if_pos rfl]
  have harriving : (d.withoutLoad x).arriving a = d.arriving a := by
    funext r
    by_cases hr : .imported r = x
    · subst hr
      have hold : d.arriving a r = none := hx.elim arriving_of_read arriving_of_isGone
      rw [hold, arriving, hnone, Option.bind_none]
    · rw [arriving, arriving, hread _ hr]
      rfl
  have hfuel : (d.withoutLoad x).treeFuel = d.treeFuel := rfl
  rw [future, future, harriving, (read_withoutLoad _ _).1, hfuel]
  by_cases hs : .linked s = x
  · subst hs
    rw [hnone, Option.bind_none]
    rw [hx.resolve_right fun hx => hgone ⟨hx, rfl⟩]
  · rw [hread _ hs]
    rfl

end Without

/-! ### Loads of links -/

section Linked

variable {m : ObjectModel} {sheet : StyleSheet} {text : SheetText} {q : LoadRequest}
  (h : d.Wired) (hc : d.Coherent) (hch : d.model.changes = []) (hs : d.model.sheet? s = some sheet)
  (hfills : d.model.Fills m s sheet (SheetSource.ofString text.text).rules)
include h hc hch hs hfills

omit hc in
/-- The sheet of the link is what it was to be. -/
theorem future_linked_self (hd : d.discarded = false) (hheld : s ∈ d.appliedSheets)
    (hq : d.loads.request? (.linked s) = some q) (hread : (d.arrivals fetch).read q = some text)
    (h' : (d.landed (.linked s) m s text.encoding).model.Sound d.appliedSheets) :
    (d.landed (.linked s) m s text.encoding).future (d.arrivals fetch) s =
      d.future (d.arrivals fetch) s := by
  have hnone : (d.landed (.linked s) m s text.encoding).loads.request? (.linked s) = none := by
    rw [request?_landed_of_issued hch hfills fun r hr => LoadTarget.noConfusion hr, if_pos rfl]
  obtain ⟨ids, hs', -⟩ : ∃ ids, (d.landed (.linked s) m s text.encoding).model.sheet? s =
      some { sheet with rules := ids, deleted := [] } ∧ _ := sheet?_landed hfills
  have houter : sheet.parentSheet = none := h.nested.outer s hheld sheet hs
  have haddresses : (d.landed (.linked s) m s text.encoding).addresses s = sheet.href.toList := by
    rw [addresses, (ObjectModel.IsChain.outer hs' houter).importChain_eq]
    cases hhref : sheet.href with
    | none => simp [address?, hs', hhref]
    | some href => simp [address?, hs', hhref]
  rw [future, future, hnone, hq, Option.bind_none, Option.bind_some, hread]
  simp only [hs, Option.map_some]
  rw [treeFuel, readSheet_landed hch hfills h hd fetch (h'.endsWithin hheld), haddresses]
  rfl

/-- Other sheets of the document have nothing to do with it. -/
theorem future_linked_other (ht : t ∈ d.appliedSheets) (hne : t ≠ s)
    (hheld : s ∈ d.appliedSheets)
    (hother : ∀ q, q ≠ .sheet s → ¬ d.model.Reaches sheet.owned q →
      (∀ x, q = .rule x → (d.model.rule? x).isSome) → d.model.Untouched m q)
    (h' : (d.landed (.linked s) m s text.encoding).model.Sound d.appliedSheets) (a : Arrivals) :
    (d.landed (.linked s) m s text.encoding).future a t = d.future a t := by
  have hsub : [t] ⊆ d.appliedSheets := by simpa using ht
  have hsound := hc.model.held_subset hsub
  have hmodel : (d.landed (.linked s) m s text.encoding).model = { m with changes := [] } :=
    model_landed
  have hself : ¬ d.model.Visits [t] (.sheet s) := by
    intro hv
    rcases hv.held_or_shown with ⟨x, hx, heq⟩ | ⟨p, -, hp⟩
    · obtain rfl := ModelPart.sheet.inj heq
      exact hne (List.mem_singleton.1 hx).symm
    · exact hc.model.heldFree s hheld p (d.model.shownBy_subset_ownedBy p hp)
  have hsame : ∀ p, d.model.Visits [t] p → d.model.Untouched m p := by
    intro p hv
    refine hother p (fun heq => hself (heq ▸ hv)) (fun hr => ?_) fun x hx => ?_
    · obtain ⟨x, hx, hvx⟩ := hsound.visits_of_reaches hv hr
      exact hself (hsound.visits_of_mem_ownedBy hvx ((ObjectModel.mem_ownedBy_sheet hs).2 hx))
    · obtain ⟨rule, -, hrule, -⟩ := hsound.exists_sheet_of_visits_rule (hx ▸ hv)
      simp [hrule]
  refine future_congr (h.nested.held_subset hsub) hsound (fun x hv => ⟨?_, ?_⟩)
    (h'.held_subset hsub) ?_ fun r hv => .inl ⟨?_, ?_⟩
  · rw [hmodel]
    exact hsame (.sheet x) hv
  · have hx : s ≠ x := fun heq => hself (heq ▸ hv)
    rw [encodings_landed hch hfills, Table.find?_insert, if_neg hx]
  · rw [request?_landed_of_issued hch hfills fun r hr => LoadTarget.noConfusion hr, if_neg]
    exact fun heq => hne (LoadTarget.linked.inj heq)
  · rw [hmodel]
    exact hsame (.rule r) hv
  · rw [request?_landed_of_issued hch hfills, if_neg nofun]
    intro x hx
    obtain rfl := LoadTarget.imported.inj hx
    obtain ⟨rule, -, hrule, -⟩ := hsound.exists_sheet_of_visits_rule hv
    exact Slots.issued_of_get? hrule

end Linked

/-! ### Loads of imports -/

section Imported

variable {m : ObjectModel} {r : RuleId} {rule : Rule} {href : String} {media : MediaList}
  {p : SheetId} {parent : StyleSheet} {text : SheetText} {q : LoadRequest}
  (h : d.Wired) (hc : d.Coherent) (hch : d.model.changes = [])
  (hr : d.model.rule? r = some rule) (hcontent : rule.content = .importing href media none)
  (hp : rule.parentSheet = some p) (hparent : d.model.sheet? p = some parent)
  (hfills : d.model.FillsImport m r rule href media s
    { StyleSheet.new (some q.url.text) (.ofString "") parent.origin with
      parentSheet := rule.parentSheet, ownerRule := some r }
    (SheetSource.ofString text.text).rules)
  (ht : t ∈ d.appliedSheets)
include hc hch hr hfills ht

omit hch hr in
theorem untouched_imported {x : ModelPart} (hv : d.model.Visits [t] x) (hx : x ≠ .rule r) :
    d.model.Untouched m x := by
  have hsound : d.model.Sound [t] := hc.model.held_subset (by simpa using ht)
  refine hfills.other x ?_ hx ?_
  · rintro rfl
    exact hfills.fresh (hsound.issued_of_visits hv)
  · rintro y rfl
    obtain ⟨rule, -, hrule, -⟩ := hsound.exists_sheet_of_visits_rule hv
    simp [hrule]

include h hcontent hp hparent

/-- The import has the sheet that it was to get. -/
theorem readRule_imported (hd : d.discarded = false)
    (hq : d.loads.request? (.imported r) = some q) (hread : (d.arrivals fetch).read q = some text)
    (hv : d.model.Visits [t] (.rule r)) {fuel fuel' : Nat}
    (hends : d.model.EndsWithin fuel (.rule r))
    (hends' : (d.landed (.imported r) m s text.encoding).model.EndsWithin fuel' (.rule r)) :
    (d.landed (.imported r) m s text.encoding).readRule
        ((d.landed (.imported r) m s text.encoding).arriving (d.arrivals fetch)) fuel' r =
      d.readRule (d.arriving (d.arrivals fetch)) fuel r := by
  have hmodel : (d.landed (.imported r) m s text.encoding).model = { m with changes := [] } :=
    model_landed
  have hsub : [t] ⊆ d.appliedSheets := by simpa using ht
  have hr' : (d.landed (.imported r) m s text.encoding).model.rule? r =
      some { rule with content := .importing href media (some s) } := by
    rw [hmodel]
    exact hfills.given
  obtain ⟨ids, hs', -⟩ : ∃ ids, (d.landed (.imported r) m s text.encoding).model.sheet? s =
      some { StyleSheet.new (some q.url.text) (.ofString "") parent.origin with
        parentSheet := rule.parentSheet, ownerRule := some r, rules := ids, deleted := [] } ∧ _ :=
    sheet?_landed hfills.fills
  have haddresses : (d.landed (.imported r) m s text.encoding).addresses s =
      q.url.text :: d.addresses p := by
    obtain ⟨l, hl, hvl⟩ := ((h.nested.held_subset hsub).exists_isChain
      (hc.model.held_subset hsub)).2 r rule p hv hr hp
    have hsame : ∀ x ∈ l, (d.landed (.imported r) m s text.encoding).model.sheet? x =
        d.model.sheet? x := by
      intro x hx
      rw [hmodel]
      exact untouched_imported hc hfills ht (hvl x hx) nofun
    have hchain := ObjectModel.IsChain.inner hs' hp (hl.congr hsame)
    have haddress : (d.landed (.imported r) m s text.encoding).address? s = some q.url.text := by
      rw [address?, hs']
      rfl
    rw [← addresses_congr hl hsame, addresses, addresses, hchain.importChain_eq,
      (hl.congr hsame).importChain_eq, List.filterMap_cons, haddress]
  cases fuel with
  | zero => exact absurd hends ObjectModel.not_endsWithin_zero
  | succ fuel =>
    cases fuel' with
    | zero => exact absurd hends' ObjectModel.not_endsWithin_zero
    | succ fuel' =>
      have hends'' : (d.landed (.imported r) m s text.encoding).model.EndsWithin fuel'
        (.sheet s) := by
        refine hends'.shown ?_
        rw [ObjectModel.mem_shownBy_rule hr']
        simp [RuleContent.owned]
      cases fuel' with
      | zero => exact absurd hends'' ObjectModel.not_endsWithin_zero
      | succ fuel' =>
        rw [readRule, readRule, hr, hr']
        simp only [hcontent]
        rw [readSheet_landed hch hfills.fills h hd fetch hends'', haddresses, arriving, hq, hr]
        simp only [Option.bind_some, hp, hparent, Arrivals.arrive, Arrivals.sheetOf, hread,
          Option.map_some]
        rfl

theorem future_imported (hd : d.discarded = false)
    (hq : d.loads.request? (.imported r) = some q) (hread : (d.arrivals fetch).read q = some text)
    (h' : (d.landed (.imported r) m s text.encoding).model.Sound d.appliedSheets) :
    (d.landed (.imported r) m s text.encoding).future (d.arrivals fetch) t =
      d.future (d.arrivals fetch) t := by
  have hsub : [t] ⊆ d.appliedSheets := by simpa using ht
  have hsound := hc.model.held_subset hsub
  have hmodel : (d.landed (.imported r) m s text.encoding).model = { m with changes := [] } :=
    model_landed
  refine future_congr (h.nested.held_subset hsub) hsound (fun x hv => ⟨?_, ?_⟩)
    (h'.held_subset hsub) ?_ fun x hv => ?_
  · rw [hmodel]
    exact untouched_imported hc hfills ht hv nofun
  · have hx : s ≠ x := fun heq => hfills.fresh (heq ▸ hsound.issued_of_visits hv)
    rw [encodings_landed hch hfills.fills, Table.find?_insert, if_neg hx]
  · rw [request?_landed_of_issued hch hfills.fills fun x hx => LoadTarget.noConfusion hx,
      if_neg nofun]
  · by_cases hx : x = r
    · subst hx
      exact .inr fun fuel fuel' hends hends' => readRule_imported h hc hch hr hcontent hp hparent
        hfills ht hd hq hread hv hends hends'
    · refine .inl ⟨?_, ?_⟩
      · rw [hmodel]
        exact untouched_imported hc hfills ht hv fun heq => hx (ModelPart.rule.inj heq)
      · rw [request?_landed_of_issued hch hfills.fills, if_neg]
        · exact fun heq => hx (LoadTarget.imported.inj heq)
        · intro y hy
          obtain rfl := LoadTarget.imported.inj hy
          obtain ⟨rule, -, hrule, -⟩ := hsound.exists_sheet_of_visits_rule hv
          exact Slots.issued_of_get? hrule

end Imported

/-! ### All loads -/

namespace Outcome

variable {l : PendingLoad LoadTarget} {read : Option SheetText}

theorem remains (ho : Outcome d l read d') : d.Remains d' := by
  cases ho with
  | unread => exact ⟨rfl, rfl, rfl, rfl, rfl, rfl⟩
  | gone => exact ⟨rfl, rfl, rfl, rfl, rfl, rfl⟩
  | linked => exact remains_landed
  | imported => exact remains_landed

theorem changes_eq_nil (ho : Outcome d l read d') (hch : d.model.changes = []) :
    d'.model.changes = [] := by
  cases ho with
  | unread => exact hch
  | gone => exact hch
  | linked => exact changes_notice _ true
  | imported => exact changes_notice _ true

theorem proper (ho : Outcome d l read d') (h : d.loads.Proper) : d'.loads.Proper := by
  have hwithout : (d.withoutLoad l.target).loads.Proper := h.filter _
  cases ho with
  | unread | gone => exact hwithout
  | linked | imported =>
    refine proper_notice ?_ true
    exact hwithout

theorem arrivals_eq (ho : Outcome d l read d') : d'.arrivals fetch = d.arrivals fetch := by
  cases ho with
  | unread => rfl
  | gone => rfl
  | linked _ _ _ _ hfills => exact arrivals_landed hfills fetch
  | imported _ _ _ _ _ _ hfills => exact arrivals_landed hfills.fills fetch

/-- Whatever comes of a load, all sheets of the document will be what they would have been. -/
theorem future_eq (ho : Outcome d l ((d.arrivals fetch).read l.request) d') (h : d.Wired)
    (hc : d.Coherent) (hch : d.model.changes = []) (hd : d.discarded = false)
    (hl : l ∈ d.loads.pending) (h' : d'.Coherent) (ht : t ∈ d.appliedSheets) :
    d'.future (d.arrivals fetch) t = d.future (d.arrivals fetch) t := by
  have hrequest := h.loads.request?_of_mem hl
  have hsound : d'.model.Sound d.appliedSheets := ho.remains.appliedSheets ▸ h'.model
  cases ho with
  | unread hread => exact future_withoutLoad (.inl (by rw [hrequest, Option.bind_some, hread])) t
  | gone hgone => exact future_withoutLoad (.inr hgone) t
  | @linked s sheet text m htarget hread hs hrewires hfills hother =>
    have hheld : s ∈ d.appliedSheets :=
      (h.linked s (htarget ▸ LoadQueue.mem_targets hl)).2 (by simp [hs])
    rw [htarget] at hrequest hsound ⊢
    by_cases hts : t = s
    · subst hts
      exact future_linked_self h hch hs hfills hd hheld hrequest hread hsound
    · exact future_linked_other h hc hch hs hfills ht hts hheld hother hsound _
  | imported htarget hread hr hcontent hp hparent hfills =>
    rw [htarget] at hrequest hsound ⊢
    exact future_imported (q := l.request) h hc hch hr hcontent hp hparent hfills ht hd
      hrequest hread
      hsound

end Outcome

end WebStyle.Document
