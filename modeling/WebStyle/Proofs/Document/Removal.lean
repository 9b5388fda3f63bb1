import WebStyle.Proofs.Document.Results
import WebStyle.Proofs.Document.Runs
import WebStyle.Proofs.ObjectModel.Deallocation
/-!
Removing a sheet. All that it owns is gone, at any depth, and no load is under way any more for
what is gone, while what is not of its tree is left as it was, with the loads for it.
-/
set_option autoImplicit false

namespace WebStyle

/-- The part of the object model that a load is for. -/
def LoadTarget.part : LoadTarget → ModelPart
  | .linked s => .sheet s
  | .imported r => .rule r

namespace ObjectModel

open Relation

variable {m m' : ObjectModel} {held : List SheetId} {s t : SheetId} {x : RuleId} {p q : ModelPart}
  {l : RuleList}

/-- Whether requests for a part are refused, since its handle leads nowhere. -/
def Refuses (m : ObjectModel) : ModelPart → Prop
  | .sheet s => m.sheet s = .error .stale
  | .rule r => m.rule r = .error .stale

theorem refuses_iff : m.Refuses p ↔ ¬ m.IsLive p := by
  cases p with
  | sheet s => cases h : m.sheet? s <;> simp [Refuses, ObjectModel.sheet, live, IsLive, h]
  | rule r => cases h : m.rule? r <;> simp [Refuses, ObjectModel.rule, live, IsLive, h]

/-! ### Trees apart -/

section Sound

variable (h : m.Sound held)
include h

/-- The rules of a sheet that is not in a tree are not in it either. -/
theorem Sound.not_reaches_of_comesFrom (hl : ¬ m.Reaches [.sheet s] l.owner)
    (hx : m.ComesFrom l x) : ¬ m.Reaches [.sheet s] (.rule x) := by
  have hsheet : ∀ r, .rule r ∈ [ModelPart.sheet s] → ∀ q, .rule r ∉ m.ownedBy q := by simp
  induction hx with
  | listed hx => exact h.not_reaches_rule hsheet (mem_ownedBy_owner hx) hl
  | inner _ hx ih => exact h.not_reaches_rule hsheet (mem_ownedBy_owner hx) ih

/-- Of two trees, neither of which has the root of the other, no part is in both. -/
theorem Sound.not_reaches_of_apart (hp : ¬ m.Reaches [.sheet s] p)
    (hs : ¬ m.Reaches [p] (.sheet s)) (hq : m.Reaches [p] q) : ¬ m.Reaches [.sheet s] q := by
  obtain ⟨a, ha, hpath⟩ := hq
  obtain rfl := List.mem_singleton.1 ha
  induction hpath with
  | refl => exact hp
  | @tail b c hab hbc ih =>
    rintro ⟨a', ha', hpath'⟩
    obtain rfl := List.mem_singleton.1 ha'
    rcases ReflTransGen.cases_tail hpath' with rfl | ⟨b', hb', hbc'⟩
    · exact hs ⟨a, ha, hab.tail hbc⟩
    -- the one owner of `c` is in both trees
    · obtain rfl := h.unique b' b c hbc' hbc
      exact ih ⟨.sheet s, ha', hb'⟩

end Sound

/-- Whether a sheet and its rules are the same in both models, with what was deleted from it. -/
structure KeepsRules (m m' : ObjectModel) (t : SheetId) : Prop where
  sheet : m.Untouched m' (.sheet t)
  rules : ∀ l : RuleList, l.owner = .sheet t → ∀ x, m.ComesFrom l x → m.Untouched m' (.rule x)

end ObjectModel

namespace Document

variable {d d' : Document} {s : SheetId}

theorem isLive_iff (d : Document) (t : LoadTarget) : d.isLive t ↔ d.model.IsLive t.part := by
  cases t <;> rfl

/-- What removing a sheet comes to. -/
structure Removes (d d' : Document) (s : SheetId) : Prop where
  sheets : d'.sheets = d.sheets.filter (· != s)
  /-- Nothing is left of the tree of the sheet. -/
  gone : ∀ q, d.model.Reaches [.sheet s] q → d'.model.Refuses q
  left : ∀ q, ¬ d.model.Reaches [.sheet s] q → d.model.Untouched d'.model q
  /-- The loads for what is left stay as they are, in their order. -/
  loads : d'.loads = d.loads.filter fun l => d'.isLive l.target
  pending : d'.pendingLoads.1 =
    (d.loads.pending.filter fun l => d'.isLive l.target).map fun l => (l.ticket, l.url)
  /-- No load is for the sheet, or for an import in its tree. -/
  apart : ∀ l ∈ d'.loads.pending, ¬ d.model.Reaches [.sheet s] l.target.part
  /-- The other sheets of the document keep their rules. -/
  others : ∀ t ∈ d.appliedSheets, t ≠ s → d.model.KeepsRules d'.model t
  /-- So they keep what they import, unless the sheet was among it. -/
  trees : ∀ t ∈ d.appliedSheets, t ≠ s → ¬ d.model.Reaches [.sheet t] (.sheet s) →
    ∀ q, d.model.Reaches [.sheet t] q → d.model.Untouched d'.model q

/-- The document without a sheet and all that it owns. -/
def without (d : Document) (s : SheetId) : Document :=
  { d with
    model := { d.model.free [.sheet s] with changes := [] }
    sheets := d.sheets.filter (· != s)
    cache := .empty
    encodings := d.encodings.erase s
    loads := d.loads.filter fun l =>
      { d with model := { d.model.free [.sheet s] with changes := [] } }.isLive l.target }

/-- Where no change waits to be noticed, only the removal is noticed. -/
theorem exec_removeStyleSheet (hch : d.model.changes = []) :
    (DocumentM.removeStyleSheet s).exec d =
      if (d.model.sheet? s).isSome then (.ok (), d.without s)
      else (.error (.refused .stale), d) := by
  rw [DocumentM.removeStyleSheet, DocumentM.exec_edit_bind, ModelM.removeSheet,
    ModelM.exec_sheet_bind]
  cases hs : d.model.sheet? s with
  | none => rfl
  | some sheet =>
    have hnoted : ((d.model.free [.sheet s]).note (.removed s)).changes = [.removed s] := by
      simp [ObjectModel.note, (d.model.frees_free [.sheet s]).changes, hch]
    simp only [ModelM.exec_modify, DocumentM.exec_modify, Option.isSome_some, ↓reduceIte, sync]
    rw [notice_eq _ _ (by simp [hnoted]), announced]
    simp only [hnoted]
    rfl

theorem pendingLoads_of_nil (hch : d.model.changes = []) :
    d.pendingLoads.1 = d.loads.pending.map fun l => (l.ticket, l.url) := by
  rw [pendingLoads, sync, notice_of_nil d false hch]

theorem Coherent.removes_without (h : d.Coherent) (s : SheetId) : d.Removes (d.without s) s := by
  have hf := d.model.frees_free [.sheet s]
  have hlive : ∀ q, (d.without s).model.IsLive q ↔ (d.model.free [.sheet s]).IsLive q := by
    intro q
    cases q <;> rfl
  have hleft : ∀ q, ¬ d.model.Reaches [.sheet s] q → d.model.Untouched (d.without s).model q := by
    intro q hq
    cases q <;> exact hf.other _ hq
  have hgone : ∀ q, d.model.Reaches [.sheet s] q → ¬ (d.without s).model.IsLive q := fun q hq =>
    (hlive q).not.2 (hf.dead q hq)
  have howner : ∀ t ∈ d.appliedSheets, t ≠ s → ¬ d.model.Reaches [.sheet s] (.sheet t) :=
    fun t ht hne => h.model.not_reaches_held ht (by simpa using hne)
  exact {
    sheets := rfl
    gone := fun q hq => ObjectModel.refuses_iff.2 (hgone q hq)
    left := hleft
    loads := rfl
    pending := pendingLoads_of_nil rfl
    apart := fun l hl hreaches =>
      hgone _ hreaches ((isLive_iff _ _).1 (List.mem_filter.1 hl).2)
    others := fun t ht hne =>
      ⟨hleft _ (howner t ht hne), fun l hl x hx => hleft _
        (h.model.not_reaches_of_comesFrom (hl ▸ howner t ht hne) hx)⟩
    trees := fun t ht hne hno q hq => hleft q
      (h.model.not_reaches_of_apart (howner t ht hne) hno hq) }

/-- Whatever was done before, where no change waits to be noticed, a sheet that is removed leaves
nothing of its tree and no load for it, and all else as it was. -/
theorem Reached.removes_removeStyleSheet (h : Reached (fun d a => a.IsProper d) d)
    (hch : d.model.changes = []) (hok : (DocumentM.removeStyleSheet s).exec d = (.ok (), d')) :
    d.Removes d' s := by
  rw [exec_removeStyleSheet hch] at hok
  split at hok
  · obtain ⟨-, rfl⟩ := Prod.mk.inj hok
    exact (h.coherent fun _ _ ha => ha).1.removes_without s
  · simp at hok

/-- Two elements own sheets with imports. That of the first was loaded, and imports another. -/
def collecting : Document :=
  [Action.editDom (.create (.element (.ofAttributes "a" []))),
    .editDom (.insertBefore ⟨0, 0⟩ ⟨1, 0⟩ none),
    .addStyleElement ⟨1, 0⟩ "@import url(x:a);@media print\x7b b\x7b\x7d\x7d",
    .addStyleElement ⟨1, 0⟩ "@import url(x:b);a\x7b\x7d", .pendingLoads,
    .complete 1 (.ok (.ofText "@import url(x:c);"))].foldl Action.apply
      (new none ⟨.screen 800.0 600.0, .standard, none, .full⟩)

theorem removes_collecting : ∃ d',
    (DocumentM.removeStyleSheet ⟨0, 0⟩).exec collecting = (.ok (), d') ∧
    collecting.pendingLoads.1.map (fun (t, url) => (t, url.text)) = [(3, "x:c"), (2, "x:b")] ∧
    d'.pendingLoads.1.map (fun (t, url) => (t, url.text)) = [(2, "x:b")] ∧
    collecting.Removes d' ⟨0, 0⟩ := by
  have hnew : Reached (fun d a => a.IsProper d)
      (new none ⟨.screen 800.0 600.0, .standard, none, .full⟩) := .new _ _ (by decide +kernel)
  have hreached : Reached (fun d a => a.IsProper d) collecting := by
    refine hnew.foldl (fun a ha d => ?_) (by decide +kernel)
    simp only [List.mem_cons, List.not_mem_nil, or_false] at ha
    rcases ha with rfl | rfl | rfl | rfl | rfl | rfl <;> exact trivial
  have hch : collecting.model.changes = [] := by decide +kernel
  have hlive : (collecting.model.sheet? ⟨0, 0⟩).isSome := by decide +kernel
  have hok : (DocumentM.removeStyleSheet ⟨0, 0⟩).exec collecting =
      (.ok (), collecting.without ⟨0, 0⟩) := by
    rw [exec_removeStyleSheet hch, if_pos hlive]
  exact ⟨_, hok, by decide +kernel, by decide +kernel, hreached.removes_removeStyleSheet hch hok⟩

end Document
end WebStyle
