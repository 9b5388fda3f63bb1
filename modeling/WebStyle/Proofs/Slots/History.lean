import Mathlib.Data.List.Pairwise
import WebStyle.Proofs.Slots
/-!
Slots from their first value on. A history lists what was called on the slots and which handles they
gave out, and tells by itself what each handle refers to.
-/
set_option autoImplicit false

namespace WebStyle.Slots

variable {κ α : Type}

/-- What was called on slots: with the handle that was given out for a value, or with any handle,
be it stale or never given out. -/
inductive Event (κ α : Type) where
  | inserted (h : Handle κ) (v : α)
  | modified (h : Handle κ) (f : α → α)
  | taken (h : Handle κ)

/-! Events are listed from the last one to the first. -/

/-- The handles that were given out. -/
def given : List (Event κ α) → List (Handle κ)
  | [] => []
  | .inserted h _ :: es => h :: given es
  | .modified _ _ :: es => given es
  | .taken _ :: es => given es

/-- The value that was last stored for a handle, unless it was taken. -/
def stored : List (Event κ α) → Handle κ → Option α
  | [], _ => none
  | .inserted k v :: es, h => if h = k then some v else stored es h
  | .modified k f :: es, h => if k = h then (stored es h).map f else stored es h
  | .taken k :: es, h => if k = h then none else stored es h

/-- The handles that have a value. -/
def live (es : List (Event κ α)) : List (Handle κ) :=
  (given es).filter fun h => (stored es h).isSome

/-- The places whose values were taken and that got no other since, the last one first. -/
def vacant : List (Event κ α) → List Nat
  | [] => []
  | .inserted _ _ :: es => (vacant es).tail
  | .modified _ _ :: es => vacant es
  | .taken h :: es => if (stored es h).isSome then h.index :: vacant es else vacant es

/-- The slots that events lead to from empty ones. -/
inductive History : List (Event κ α) → Slots κ α → Prop
  | empty : History [] ∅
  | insert {es : List (Event κ α)} {s : Slots κ α} (hs : History es s) (v : α) :
      History (.inserted (s.insert v).2 v :: es) (s.insert v).1
  | modify {es : List (Event κ α)} {s : Slots κ α} (hs : History es s) (h : Handle κ) (f : α → α) :
      History (.modified h f :: es) (s.modify h f)
  | take {es : List (Event κ α)} {s : Slots κ α} (hs : History es s) (h : Handle κ) :
      History (.taken h :: es) (s.take h).2

variable {es : List (Event κ α)} {s : Slots κ α}

/-! ### The values with their handles -/

theorem mem_toList {h : Handle κ} {v : α} : (h, v) ∈ s.toList ↔ s.get? h = some v := by
  rw [get?_eq_some_iff]
  simp only [toList, List.mem_filterMap, Prod.exists, List.mem_zipIdx_iff_getElem?,
    Array.getElem?_toList, Option.map_eq_some_iff, Prod.mk.injEq]
  constructor
  · rintro ⟨slot, i, hs, w, hw, rfl, rfl⟩
    exact ⟨slot, hs, rfl, hw⟩
  · rintro ⟨slot, hs, hg, hv⟩
    exact ⟨slot, h.index, hs, v, hv, by rw [hg], rfl⟩

/-- The values are listed in the order of their places, no place twice. -/
theorem pairwise_toList (s : Slots κ α) : s.toList.Pairwise fun p q => p.1.index < q.1.index := by
  have hplaces : s.slots.toList.zipIdx.Pairwise fun p q => p.2 < q.2 := by
    rw [← List.pairwise_map (f := Prod.snd) (R := (· < ·)), List.zipIdx_map_snd]
    exact List.pairwise_lt_range'
  refine hplaces.filterMap _ fun p q hlt p' hp q' hq => ?_
  obtain ⟨v, -, rfl⟩ := Option.map_eq_some_iff.1 hp
  obtain ⟨w, -, rfl⟩ := Option.map_eq_some_iff.1 hq
  exact hlt

theorem length_toList (s : Slots κ α) : s.toList.length = s.total fun _ => 1 := by
  have hcount : ∀ (l : List (Slot α)) (n : Nat),
      ((l.zipIdx n).filterMap fun q =>
        q.1.value.map fun v => ((⟨q.2, q.1.generation⟩ : Handle κ), v)).length =
        l.foldr (fun slot n => slotWeight (fun _ => 1) slot + n) 0 := by
    intro l
    induction l with
    | nil => intro n; rfl
    | cons slot l ih =>
      intro n
      rw [List.zipIdx_cons, List.filterMap_cons, List.foldr_cons, ← ih (n + 1), slotWeight]
      cases slot.value with
      | none => simp
      | some v => simp [Nat.add_comm]
  exact hcount s.slots.toList 0

/-! ### What a history tells about the slots -/

namespace History

theorem valid (hs : History es s) : s.Valid := by
  induction hs with
  | empty => exact valid_empty
  | insert _ v ih => exact ih.insert v
  | modify _ h f ih => exact ih.modify h f
  | take _ h ih => exact ih.erase h

theorem get?_eq_stored (hs : History es s) (h : Handle κ) : s.get? h = stored es h := by
  induction hs with
  | empty => exact get?_empty h
  | insert hs v ih => rw [hs.valid.get?_insert, stored, ih]
  | modify _ k f ih => rw [get?_modify, stored, ih]
  | take _ k ih => rw [← erase, get?_erase, stored, ih]

/-- The places that are linked as free are the vacant ones, in their order. -/
theorem frees (hs : History es s) : s.Frees (vacant es) := by
  induction hs with
  | empty => exact frees_empty
  | insert _ v ih => exact ih.insert v
  | modify _ h f ih => exact ih.modify h f
  | @take es s hs h ih =>
    rw [vacant, ← hs.get?_eq_stored h, ← erase]
    cases hv : s.get? h with
    | none => rwa [erase_of_none hv]
    | some v => exact ih.erase hv

theorem issued_of_mem_given (hs : History es s) {h : Handle κ} (hh : h ∈ given es) :
    s.Issued h := by
  induction hs with
  | empty => cases hh
  | insert hs v ih =>
    rcases List.mem_cons.1 hh with rfl | hh
    · exact hs.valid.issued_fresh v
    · exact (grows_insert _ v).issued h (ih hh)
  | modify _ k f ih => exact (grows_modify _ k f).issued h (ih hh)
  | take _ k ih => exact (grows_erase _ k).issued h (ih hh)

/-- No handle is given out again. -/
theorem fresh_notMem_given (hs : History es s) (hw : s.Unwrapped) (v : α) :
    (s.insert v).2 ∉ given es := fun hmem =>
  hs.valid.not_issued_fresh hw v (hs.issued_of_mem_given hmem)

theorem nodup_given (hs : History es s) (hw : s.Unwrapped) : (given es).Nodup := by
  induction hs with
  | empty => exact List.nodup_nil
  | insert hs v ih =>
    have hw' := hw.of_grows (grows_insert _ v)
    exact List.nodup_cons.2 ⟨hs.fresh_notMem_given hw' v, ih hw'⟩
  | modify _ h f ih => exact ih (hw.of_grows (grows_modify _ h f))
  | take _ h ih => exact ih (hw.of_grows (grows_erase _ h))

end History

/-- Only a handle that was given out has a value. -/
theorem mem_given_of_stored {h : Handle κ} {v : α} (hv : stored es h = some v) : h ∈ given es := by
  induction es generalizing v with
  | nil => cases hv
  | cons e es ih =>
    cases e with
    | inserted k w =>
      rw [stored] at hv
      split at hv
      · rename_i heq
        exact heq ▸ List.mem_cons_self
      · exact List.mem_cons_of_mem _ (ih hv)
    | modified k f =>
      rw [stored] at hv
      split at hv
      · obtain ⟨w, hw, -⟩ := Option.map_eq_some_iff.1 hv
        exact ih hw
      · exact ih hv
    | taken k =>
      rw [stored] at hv
      split at hv
      · cases hv
      · exact ih hv

/-- What was taken has no value any more, unless its handle is given out anew. -/
theorem stored_of_taken {newer older : List (Event κ α)} {h : Handle κ} (hnew : h ∉ given newer) :
    stored (newer ++ .taken h :: older) h = none := by
  induction newer with
  | nil => simp [stored]
  | cons e newer ih =>
    cases e with
    | inserted k w =>
      obtain ⟨hne, hnew⟩ := List.ne_and_not_mem_of_not_mem_cons hnew
      simp only [List.cons_append, stored, hne, ↓reduceIte, ih hnew]
    | modified k f => simp [stored, ih hnew]
    | taken k => simp [stored, ih hnew]

theorem given_append (newer older : List (Event κ α)) :
    given (newer ++ older) = given newer ++ given older := by
  induction newer with
  | nil => rfl
  | cons e newer ih => cases e <;> simp [given, ih]

theorem Issued.index_lt {h : Handle κ} (hi : s.Issued h) : h.index < s.slots.size := by
  obtain ⟨slot, hs, -⟩ := hi
  exact (Array.getElem?_eq_some_iff.1 hs).1

namespace History

/-- The handles that have a value are those that the values are listed with. -/
theorem map_toList_perm (hs : History es s) (hw : s.Unwrapped) :
    (s.toList.map Prod.fst).Perm (live es) := by
  have hnodup : (s.toList.map Prod.fst).Nodup :=
    List.pairwise_map.2 ((pairwise_toList s).imp fun hlt heq => by
      rw [heq] at hlt
      exact Nat.lt_irrefl _ hlt)
  refine (List.perm_ext_iff_of_nodup hnodup ((hs.nodup_given hw).filter _)).2 fun h => ?_
  simp only [List.mem_map, List.mem_filter, Prod.exists, exists_and_right, exists_eq_right,
    mem_toList, hs.get?_eq_stored, Option.isSome_iff_exists]
  exact ⟨fun ⟨v, hv⟩ => ⟨mem_given_of_stored hv, v, hv⟩, fun h => h.2⟩

theorem size_eq_length (hs : History es s) (hw : s.Unwrapped) : s.size = (live es).length := by
  rw [hs.valid.size_eq, ← length_toList, ← (hs.map_toList_perm hw).length_eq, List.length_map]

/-- What was taken once is not there to be taken again. -/
theorem take_of_taken (hs : History es s) (hw : s.Unwrapped) {newer older : List (Event κ α)}
    {h : Handle κ} (hes : es = newer ++ .taken h :: older) (hh : h ∈ given older) :
    (s.take h).1 = none := by
  have hnodup := hs.nodup_given hw
  rw [hes, given_append] at hnodup
  have hnew : h ∉ given newer := fun hnew => (List.nodup_append.1 hnodup).2.2 h hnew h hh rfl
  rw [take_fst, hs.get?_eq_stored, hes, stored_of_taken hnew]

/-- A new value goes to the place that was freed last, and to a new one when none is free. -/
theorem index_insert (hs : History es s) (v : α) :
    match vacant es with
    | i :: _ => (s.insert v).2.index = i
    | [] => ∀ k ∈ given es, k.index ≠ (s.insert v).2.index := by
  have hfree := hs.frees.free_eq
  cases hl : vacant es with
  | nil =>
    intro k hk
    rw [hl] at hfree
    rw [insert_of_none hfree]
    exact Nat.ne_of_lt (hs.issued_of_mem_given hk).index_lt
  | cons i rest =>
    rw [hl] at hfree
    rw [insert_of_some hfree]

/-- As long as no place was freed so often that its generations came round, every handle is new when
it is given out, and what the slots answer to any handle is what the events tell: the value that was
last stored for it, until that was taken, which happens once. The values are counted and listed, and
the place that was freed last is the first one to be used again. -/
theorem answers_of_unwrapped (hs : History es s) (hw : s.Unwrapped) :
    (given es).Nodup ∧ (∀ v, (s.insert v).2 ∉ given es) ∧
    (∀ h, s.get? h = stored es h) ∧
    (∀ h, (s.take h).1 = stored es h ∧ (s.take h).2.get? h = none ∧
      ∀ k, k ≠ h → (s.take h).2.get? k = s.get? k) ∧
    (∀ (newer older : List (Event κ α)) (h : Handle κ), es = newer ++ .taken h :: older →
      h ∈ given older → (s.take h).1 = none) ∧
    s.size = (live es).length ∧
    (∀ h v, (h, v) ∈ s.toList ↔ stored es h = some v) ∧
    s.toList.Pairwise (fun p q => p.1.index < q.1.index) ∧
    ∀ v, match vacant es with
      | i :: _ => (s.insert v).2.index = i
      | [] => ∀ k ∈ given es, k.index ≠ (s.insert v).2.index := by
  refine ⟨hs.nodup_given hw, hs.fresh_notMem_given hw, hs.get?_eq_stored, fun h => ⟨?_, ?_, ?_⟩,
    fun newer older h => hs.take_of_taken hw, hs.size_eq_length hw, fun h v => ?_,
    pairwise_toList s, hs.index_insert⟩
  · rw [take_fst, hs.get?_eq_stored]
  · rw [← erase, get?_erase, if_pos rfl]
  · intro k hne
    rw [← erase, get?_erase, if_neg hne.symm]
  · rw [mem_toList, hs.get?_eq_stored]

/-- A place whose value was taken, and taken again to no effect, holds another value: the first
handle is stale. -/
theorem answers_after_reuse :
    let s : Slots Unit Nat :=
      (((((∅ : Slots Unit Nat).insert 1).1.take ⟨0, 0⟩).2.take ⟨0, 0⟩).2.insert 2).1
    s.Unwrapped ∧ (s.take ⟨0, 0⟩).1 = none ∧ s.get? ⟨0, 1⟩ = some 2 ∧ s.size = 1 := by
  intro s
  have hs := (((History.empty.insert 1).take (⟨0, 0⟩ : Handle Unit)).take ⟨0, 0⟩).insert 2
  have hw : s.Unwrapped := by decide
  obtain ⟨-, -, hget, -, honce, hsize, -⟩ := answers_of_unwrapped hs hw
  exact ⟨hw, honce [_] _ _ rfl (by decide), (hget _).trans (by decide), hsize.trans (by decide)⟩

end History

end WebStyle.Slots
