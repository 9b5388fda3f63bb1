import WebStyle.Proofs.Document.Coherence
import WebStyle.Proofs.Loading.Queue
/-!
How imports come to be loaded. An import that is noted replaces what was to be loaded for it before,
if it may be loaded; other loads stay as they were.
-/
set_option autoImplicit false

namespace WebStyle.Document

variable {d : Document} {s : SheetId} {r : RuleId} {t : LoadTarget}

/-- What is to be loaded for an import of a sheet, if it may be loaded. -/
def importRequest? (d : Document) (i : SheetId × RuleId) : Option LoadRequest :=
  match d.discarded, d.model.importHref i.2 with
  | false, .ok href =>
    (d.importUrl i.1 href).toOption.map fun url =>
      ⟨url, some ((d.encodings.find? i.1).getD d.encoding), none⟩
  | _, _ => none

theorem schedule_eq (front : Bool) (d : Document) (i : SheetId × RuleId) :
    (d.importRequest? i = none ∧ schedule front d i = d) ∨
      ∃ url referrer, d.importRequest? i = some ⟨url, some referrer, none⟩ ∧
        schedule front d i = { d with loads :=
          ((if front then (d.loads.filter (·.target != .imported i.2)).pushFront
            else (d.loads.filter (·.target != .imported i.2)).pushBack) url (.imported i.2)
              (some referrer)).1 } := by
  obtain ⟨s, r⟩ := i
  simp only [schedule, importRequest?]
  cases d.discarded with
  | true => exact .inl ⟨rfl, rfl⟩
  | false =>
    cases d.model.importHref r with
    | error e => exact .inl ⟨rfl, rfl⟩
    | ok href =>
      simp only
      cases d.importUrl s href with
      | error e => exact .inl ⟨rfl, rfl⟩
      | ok url => exact .inr ⟨url, _, rfl, rfl⟩

/-- What is to be loaded for an import does not depend on what else is. -/
theorem importRequest?_schedule (front : Bool) (d : Document) (i j : SheetId × RuleId) :
    (schedule front d j).importRequest? i = d.importRequest? i := by
  obtain ⟨loads, heq⟩ := exists_schedule front d j
  rw [heq]
  rfl

theorem importRequest?_foldl_schedule (front : Bool) (l : List (SheetId × RuleId)) (d : Document)
    (i : SheetId × RuleId) : (l.foldl (schedule front) d).importRequest? i =
    d.importRequest? i := by
  induction l generalizing d with
  | nil => rfl
  | cons j l ih => exact (ih _).trans (importRequest?_schedule front d i j)

theorem proper_schedule (h : d.loads.Proper) (front : Bool) (i : SheetId × RuleId) :
    (schedule front d i).loads.Proper := by
  rcases d.schedule_eq front i with ⟨-, heq⟩ | ⟨url, referrer, -, heq⟩
  · rwa [heq]
  · rw [heq]
    split
    · exact (h.filter _).pushFront url _ (LoadQueue.notMem_targets_filter _ _)
    · exact (h.filter _).pushBack url _ (LoadQueue.notMem_targets_filter _ _)

theorem request?_schedule (front : Bool) (d : Document) (i : SheetId × RuleId) (t : LoadTarget) :
    (schedule front d i).loads.request? t =
      if t = .imported i.2 then (d.importRequest? i).or (d.loads.request? t)
      else d.loads.request? t := by
  rcases d.schedule_eq front i with ⟨hnone, heq⟩ | ⟨url, referrer, hsome, heq⟩
  · rw [heq, hnone]
    simp
  · have hfree : (d.loads.filter (·.target != .imported i.2)).request? (.imported i.2) = none := by
      rw [LoadQueue.request?_filter_target, if_pos rfl]
    rw [heq, hsome]
    by_cases ht : t = .imported i.2
    · split
      · simp [LoadQueue.request?_pushFront, ht]
      · simp [LoadQueue.request?_pushBack hfree, ht]
    · split
      · simp [LoadQueue.request?_pushFront, LoadQueue.request?_filter_target, ht]
      · simp [LoadQueue.request?_pushBack hfree, LoadQueue.request?_filter_target, ht]

/-- Loads are about nothing but what was noted, and what was to be loaded before. -/
theorem mem_targets_schedule {front : Bool} {i : SheetId × RuleId}
    (ht : t ∈ (schedule front d i).loads.targets) :
    t ∈ d.loads.targets ∨ t = .imported i.2 := by
  rcases d.schedule_eq front i with ⟨-, heq⟩ | ⟨url, referrer, -, heq⟩
  · rw [heq] at ht
    exact .inl ht
  · have hold := d.loads.targets_filter_subset (·.target != .imported i.2)
    rw [heq] at ht
    split at ht
    · rcases List.mem_cons.1 ht with rfl | ht
      · exact .inr rfl
      · exact .inl (hold ht)
    · rw [LoadQueue.targets_pushBack, List.mem_append, List.mem_singleton] at ht
      exact ht.imp (fun ht => hold ht) id

section Fold

variable (front : Bool) (l : List (SheetId × RuleId))

theorem proper_foldl_schedule (h : d.loads.Proper) : (l.foldl (schedule front) d).loads.Proper := by
  induction l generalizing d with
  | nil => exact h
  | cons i l ih => exact ih (proper_schedule h front i)

theorem mem_targets_foldl_schedule (ht : t ∈ (l.foldl (schedule front) d).loads.targets) :
    t ∈ d.loads.targets ∨ ∃ i ∈ l, t = .imported i.2 := by
  induction l generalizing d with
  | nil => exact .inl ht
  | cons i l ih =>
    rcases ih ht with ht | ⟨j, hj, ht⟩
    · exact (mem_targets_schedule ht).imp id fun ht => ⟨i, by simp, ht⟩
    · exact .inr ⟨j, List.mem_cons_of_mem _ hj, ht⟩

theorem request?_foldl_schedule_of_ne (ht : ∀ i ∈ l, t ≠ .imported i.2) :
    (l.foldl (schedule front) d).loads.request? t = d.loads.request? t := by
  induction l generalizing d with
  | nil => rfl
  | cons i l ih =>
    rw [List.foldl_cons, ih fun j hj => ht j (List.mem_cons_of_mem _ hj), request?_schedule,
      if_neg (ht i (by simp))]

/-- Imports are loaded as it is right for their sheets, in whatever order they were noted. -/
theorem request?_foldl_schedule_of_mem {i : SheetId × RuleId} (hi : i ∈ l)
    (hu : ∀ j ∈ l, j.2 = i.2 → j = i) :
    (l.foldl (schedule front) d).loads.request? (.imported i.2) =
      (d.importRequest? i).or (d.loads.request? (.imported i.2)) := by
  induction l generalizing d with
  | nil => simp at hi
  | cons j l ih =>
    have hsame := importRequest?_schedule front d i j
    have hj : (schedule front d j).loads.request? (.imported i.2) =
        if j = i then (d.importRequest? i).or (d.loads.request? (.imported i.2))
        else d.loads.request? (.imported i.2) := by
      rw [request?_schedule]
      by_cases hji : j = i
      · simp [hji]
      · have hne : i.2 ≠ j.2 := fun h => hji (hu j (by simp) h.symm)
        simp [hji, hne]
    rw [List.foldl_cons]
    by_cases hmem : i ∈ l
    · rw [ih hmem fun k hk => hu k (List.mem_cons_of_mem _ hk), hsame, hj]
      split
      · rw [← Option.or_assoc, Option.or_self]
      · rfl
    · obtain rfl : i = j := (List.mem_cons.1 hi).resolve_right hmem
      rw [request?_foldl_schedule_of_ne front l (fun k hk heq => hmem ?_), hj, if_pos rfl]
      rw [← hu k (List.mem_cons_of_mem _ hk) (LoadTarget.imported.inj heq).symm]
      exact hk

end Fold

/-! ### Taking notice -/

theorem mem_announced {first : Bool} {i : SheetId × RuleId} :
    i ∈ d.announced first ↔ .imported i.1 i.2 ∈ d.model.changes := by
  have hmem : i ∈ d.model.changes.filterMap Change.imported? ↔
      .imported i.1 i.2 ∈ d.model.changes := by
    rw [List.mem_filterMap]
    constructor
    · rintro ⟨c, hc, hi⟩
      cases c with
      | imported s r =>
        obtain rfl := Option.some.inj hi
        exact hc
      | _ => cases hi
    · exact fun hc => ⟨_, hc, rfl⟩
  rw [announced]
  split
  · rw [List.mem_reverse, hmem]
  · exact hmem

theorem loads_dropRemoved (d : Document) (removed : List SheetId) :
    (d.dropRemoved removed).loads = d.loads ∨
      ∃ p, (d.dropRemoved removed).loads = d.loads.filter p := by
  cases removed with
  | nil => exact .inl rfl
  | cons s l => exact .inr ⟨_, rfl⟩

theorem proper_notice (h : d.loads.Proper) (first : Bool) : (d.notice first).loads.Proper := by
  by_cases hch : d.model.changes = []
  · rwa [notice_of_nil d first hch]
  · rw [notice_eq d first hch]
    refine proper_foldl_schedule _ _ ?_
    rcases loads_dropRemoved { d with model := { d.model with changes := [] }, cache := .empty }
      (d.model.changes.filterMap Change.removed?) with heq | ⟨p, heq⟩
    · rwa [heq]
    · rw [heq]
      exact h.filter p

/-- What is loaded was to be loaded before, or was noted. -/
theorem mem_targets_notice {first : Bool} (ht : t ∈ (d.notice first).loads.targets) :
    t ∈ d.loads.targets ∨ ∃ s r, .imported s r ∈ d.model.changes ∧ t = .imported r := by
  by_cases hch : d.model.changes = []
  · rw [notice_of_nil d first hch] at ht
    exact .inl ht
  · rw [notice_eq d first hch] at ht
    rcases mem_targets_foldl_schedule _ _ ht with ht | ⟨i, hi, ht⟩
    · rcases loads_dropRemoved { d with model := { d.model with changes := [] }, cache := .empty }
        (d.model.changes.filterMap Change.removed?) with heq | ⟨p, heq⟩
      · rw [heq] at ht
        exact .inl ht
      · rw [heq] at ht
        exact .inl (d.loads.targets_filter_subset p ht)
    · exact .inr ⟨i.1, i.2, mem_announced.1 hi, ht⟩

/-- Whether a document differs from another at most in its object model, in loads, and in what is
kept of styles. -/
structure Remains (d d' : Document) : Prop where
  dom : d'.dom = d.dom
  url : d'.url = d.url
  settings : d'.settings = d.settings
  appliedSheets : d'.appliedSheets = d.appliedSheets
  layout : d'.layout = d.layout
  discarded : d'.discarded = d.discarded

theorem Remains.refl (d : Document) : d.Remains d := ⟨rfl, rfl, rfl, rfl, rfl, rfl⟩

theorem Remains.trans {d' d'' : Document} (h : d.Remains d') (h' : d'.Remains d'') :
    d.Remains d'' where
  dom := h'.dom.trans h.dom
  url := h'.url.trans h.url
  settings := h'.settings.trans h.settings
  appliedSheets := h'.appliedSheets.trans h.appliedSheets
  layout := h'.layout.trans h.layout
  discarded := h'.discarded.trans h.discarded

theorem remains_notice (d : Document) (first : Bool) : d.Remains (d.notice first) := by
  by_cases hch : d.model.changes = []
  · rw [notice_of_nil d first hch]
    exact .refl d
  · obtain ⟨encodings, loads, heq⟩ := exists_notice d first hch
    rw [heq]
    exact ⟨rfl, rfl, rfl, rfl, rfl, rfl⟩

theorem model_notice (d : Document) (first : Bool) :
    (d.notice first).model = { d.model with changes := [] } := by
  by_cases hch : d.model.changes = []
  · rw [notice_of_nil d first hch, ← hch]
  · obtain ⟨encodings, loads, heq⟩ := exists_notice d first hch
    rw [heq]

section NoneRemoved

variable {first : Bool} (hremoved : ∀ s, .removed s ∉ d.model.changes)
include hremoved

theorem exists_notice_of_none_removed (hch : d.model.changes ≠ []) : ∃ d₁ : Document,
    d.notice first = (d.announced first).foldl (schedule first) d₁ ∧ d₁.loads = d.loads ∧
      d₁.encodings = d.encodings := by
  have hnone : d.model.changes.filterMap Change.removed? = [] := by
    refine List.filterMap_eq_nil_iff.2 fun c hc => ?_
    cases c with
    | removed s => exact absurd hc (hremoved s)
    | _ => rfl
  exact ⟨_, notice_eq d first hch, by rw [hnone]; rfl, by rw [hnone]; rfl⟩

theorem encodings_notice : (d.notice first).encodings = d.encodings := by
  by_cases hch : d.model.changes = []
  · rw [notice_of_nil d first hch]
  · obtain ⟨d₁, heq, -, he⟩ := @exists_notice_of_none_removed d first hremoved hch
    obtain ⟨loads, hl⟩ := exists_foldl_schedule first (d.announced first) d₁
    rw [heq, hl, ← he]

/-- What was not noted is loaded as before. -/
theorem request?_notice_of_ne
    (ht : ∀ s r, .imported s r ∈ d.model.changes → t ≠ .imported r) :
    (d.notice first).loads.request? t = d.loads.request? t := by
  by_cases hch : d.model.changes = []
  · rw [notice_of_nil d first hch]
  · obtain ⟨d₁, heq, hl, -⟩ := @exists_notice_of_none_removed d first hremoved hch
    rw [heq, request?_foldl_schedule_of_ne, hl]
    exact fun i hi => ht i.1 i.2 (mem_announced.1 hi)

/-- What was noted is loaded as is right afterwards. -/
theorem request?_notice_of_mem (hc : .imported s r ∈ d.model.changes)
    (hu : ∀ s', .imported s' r ∈ d.model.changes → s' = s) :
    (d.notice first).loads.request? (.imported r) =
      ((d.notice first).importRequest? (s, r)).or (d.loads.request? (.imported r)) := by
  have hch : d.model.changes ≠ [] := List.ne_nil_of_mem hc
  obtain ⟨d₁, heq, hl, -⟩ := @exists_notice_of_none_removed d first hremoved hch
  have hsame := importRequest?_foldl_schedule first (d.announced first) d₁ (s, r)
  have hmem : (s, r) ∈ d.announced first := mem_announced.2 hc
  have hfold := request?_foldl_schedule_of_mem first (d.announced first) (d := d₁) hmem
    fun j hj hjr => by
      obtain ⟨s', r'⟩ := j
      obtain rfl : r' = r := hjr
      rw [hu s' (mem_announced.1 hj)]
  rw [heq, hfold, hsame, hl]

end NoneRemoved

end WebStyle.Document
