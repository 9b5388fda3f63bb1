import WebStyle.Proofs.ObjectModel.Sources
/-!
How often slots may still be freed before the generations of their handles come round. What is freed
together was given out before, so that no slot is freed twice.
-/
set_option autoImplicit false

namespace WebStyle

/-- How often a slot was freed, or will have been once its value is. -/
def Slot.used {α : Type} (slot : Slot α) : Nat := slot.freed + slot.value.isSome.toNat

namespace Slots

variable {κ α : Type} {s : Slots κ α} {n : Nat}

/-- Whether each slot may be freed so many times. -/
def HasRoom (s : Slots κ α) (n : Nat) : Prop :=
  n < 2 ^ 32 ∧ ∀ slot ∈ s.slots, slot.freed + n < 2 ^ 32

instance (s : Slots κ α) (n : Nat) : Decidable (s.HasRoom n) :=
  inferInstanceAs (Decidable (n < 2 ^ 32 ∧ ∀ slot ∈ s.slots, slot.freed + n < 2 ^ 32))

theorem HasRoom.unwrapped (h : s.HasRoom n) : s.Unwrapped := fun slot hslot =>
  Nat.lt_of_le_of_lt (Nat.le_add_right _ n) (h.2 slot hslot)

theorem HasRoom.mono {k : Nat} (h : s.HasRoom n) (hk : k ≤ n) : s.HasRoom k :=
  ⟨Nat.lt_of_le_of_lt hk h.1, fun slot hslot =>
    Nat.lt_of_le_of_lt (Nat.add_le_add_left hk _) (h.2 slot hslot)⟩

theorem HasRoom.modify (h : s.HasRoom n) (k : Handle κ) (f : α → α) : (s.modify k f).HasRoom n := by
  refine ⟨h.1, fun slot hslot => ?_⟩
  cases hv : s.get? k with
  | none =>
    rw [modify_of_none hv] at hslot
    exact h.2 slot hslot
  | some v =>
    rw [modify_eq hv] at hslot
    obtain ⟨i, hi⟩ := Array.mem_iff_getElem?.1 hslot
    simp only [Array.getElem?_modify] at hi
    split at hi
    · obtain ⟨old, hold, rfl⟩ := Option.map_eq_some_iff.1 hi
      exact h.2 old (Array.mem_of_getElem? hold)
    · exact h.2 slot (Array.mem_of_getElem? hi)

theorem HasRoom.insert (h : s.HasRoom n) (v : α) : (s.insert v).1.HasRoom n := by
  refine ⟨h.1, fun slot hslot => ?_⟩
  have hempty : 0 + n < 2 ^ 32 := by simpa using h.1
  cases hf : s.free with
  | none =>
    rw [insert_of_none hf] at hslot
    rcases Array.mem_push.1 hslot with hslot | rfl
    · exact h.2 slot hslot
    · exact hempty
  | some j =>
    rw [insert_of_some hf] at hslot
    obtain ⟨i, hi⟩ := Array.mem_iff_getElem?.1 hslot
    simp only [Array.getElem?_setIfInBounds] at hi
    split at hi
    · split at hi
      · obtain rfl := Option.some.inj hi
        cases hold : s.slots[j]? with
        | none => simpa using hempty
        | some old => exact h.2 old (Array.mem_of_getElem? hold)
      · cases hi
    · exact h.2 slot (Array.mem_of_getElem? hi)

/-- Whether each slot may be freed so many times, besides for the value that is in it. -/
def HasRoomBeside (s : Slots κ α) (n : Nat) : Prop :=
  n < 2 ^ 32 ∧ ∀ slot ∈ s.slots, slot.used + n < 2 ^ 32

theorem HasRoom.beside (h : s.HasRoom (n + 1)) : s.HasRoomBeside n := by
  refine ⟨Nat.lt_of_succ_lt h.1, fun slot hslot => ?_⟩
  have hroom := h.2 slot hslot
  have hone := Bool.toNat_le slot.value.isSome
  rw [Slot.used]
  omega

theorem HasRoomBeside.hasRoom (h : s.HasRoomBeside n) : s.HasRoom n := by
  refine ⟨h.1, fun slot hslot => ?_⟩
  have hroom := h.2 slot hslot
  rw [Slot.used] at hroom
  omega

theorem HasRoomBeside.erase (h : s.HasRoomBeside n) (k : Handle κ) :
    (s.erase k).HasRoomBeside n := by
  refine ⟨h.1, fun slot hslot => ?_⟩
  cases hv : s.get? k with
  | none =>
    rw [erase_of_none hv] at hslot
    exact h.2 slot hslot
  | some v =>
    obtain ⟨held, hheld, -, hvalue⟩ := get?_eq_some_iff.1 hv
    rw [erase_eq hv] at hslot
    obtain ⟨i, hi⟩ := Array.mem_iff_getElem?.1 hslot
    simp only [Array.getElem?_modify] at hi
    split at hi
    · rename_i heq
      rw [← heq, hheld] at hi
      obtain rfl := Option.some.inj hi
      have hroom := h.2 held (Array.mem_of_getElem? hheld)
      simpa [Slot.used, hvalue] using hroom
    · exact h.2 slot (Array.mem_of_getElem? hi)

end Slots

namespace ObjectModel

variable {m : ObjectModel} {n : Nat} {s : SheetId} {r : RuleId} {sheet : StyleSheet} {rule : Rule}

/-- Whether each slot may be freed so many times. -/
structure HasRoom (m : ObjectModel) (n : Nat) : Prop where
  sheets : m.sheets.HasRoom n
  rules : m.rules.HasRoom n

instance (m : ObjectModel) (n : Nat) : Decidable (m.HasRoom n) :=
  decidable_of_iff (m.sheets.HasRoom n ∧ m.rules.HasRoom n)
    ⟨fun h => ⟨h.1, h.2⟩, fun h => ⟨h.sheets, h.rules⟩⟩

theorem hasRoom_free_of_beside (ps : List ModelPart) (hs : m.sheets.HasRoomBeside n)
    (hr : m.rules.HasRoomBeside n) : (m.free ps).HasRoom n := by
  fun_induction free m ps with
  | case1 m => exact ⟨hs.hasRoom, hr.hasRoom⟩
  | case2 m s rest _ ih => exact ih hs hr
  | case3 m s rest sheet _ _ ih => exact ih (hs.erase s) hr
  | case4 m r rest _ ih => exact ih hs hr
  | case5 m r rest rule _ _ ih => exact ih hs (hr.erase r)

namespace HasRoom

theorem unwrapped (h : m.HasRoom n) : m.Unwrapped := ⟨h.sheets.unwrapped, h.rules.unwrapped⟩

theorem mono {k : Nat} (h : m.HasRoom n) (hk : k ≤ n) : m.HasRoom k :=
  ⟨h.sheets.mono hk, h.rules.mono hk⟩

theorem modifySheet (h : m.HasRoom n) (s : SheetId) (f : StyleSheet → StyleSheet) :
    (m.modifySheet s f).HasRoom n :=
  ⟨h.sheets.modify s f, h.rules⟩

theorem setContent (h : m.HasRoom n) (r : RuleId) (c : RuleContent) :
    (m.setContent r c).HasRoom n :=
  ⟨h.sheets, h.rules.modify r _⟩

theorem noteChanged (h : m.HasRoom n) (s : Option SheetId) : (m.noteChanged s).HasRoom n := by
  cases s <;> exact ⟨h.sheets, h.rules⟩

theorem noteImport (h : m.HasRoom n) (type : RuleType) (s : Option SheetId) (r : RuleId) :
    (m.noteImport type s r).HasRoom n :=
  ⟨sheets_noteImport (m := m) ▸ h.sheets, rules_noteImport (m := m) ▸ h.rules⟩

/-- Each slot is freed once at most. -/
theorem free (h : m.HasRoom (n + 1)) (ps : List ModelPart) : (m.free ps).HasRoom n :=
  hasRoom_free_of_beside ps h.sheets.beside h.rules.beside

theorem adoptAll (h : m.HasRoom n) (s : Option SheetId) (parent : Option RuleId)
    (sources : List RuleSource) : (m.adoptAll s parent sources).1.HasRoom n := by
  refine adoptAll.induct_unfolding s
    (fun m _ _ result => m.HasRoom n → result.1.HasRoom n)
    (fun m _ _ result => m.HasRoom n → result.1.HasRoom n)
    ?style ?media ?importing ?fontFace ?page ?nil ?kept ?dropped m parent sources h
  case media =>
    intro m r l rules m₁ ids heq ih h
    rw [heq] at ih
    exact ih h
  case kept =>
    intro m parent source rest _ m₁ r hreserve m₂ content hbuild m₃ m₄ ids hrest ihb iha h
    obtain rfl : (m.reserve s parent).1 = m₁ := by rw [hreserve]
    rw [hbuild] at ihb
    rw [hrest] at iha
    have hreserved : (m.reserve s parent).1.HasRoom n := ⟨h.sheets, h.rules.insert _⟩
    exact iha (((ihb hreserved).setContent r content).noteImport _ _ _)
  case dropped => exact fun m parent source rest _ ih h => ih h
  all_goals intros; assumption

/-- What is left once a sheet lost its rules suffices for it to be given others. -/
theorem replaceRules_of_withoutRules (hs : m.sheet? s = some sheet)
    (h : (m.withoutRules s sheet).HasRoom n) (text : String) :
    ((ModelM.replaceRules s text).exec m).2.HasRoom n := by
  have hadopted := h.adoptAll (some s) none (SheetSource.ofString text).rules
  rw [ModelM.exec_replaceRules_of_some hs rfl]
  split
  · exact (hadopted.modifySheet s _).noteChanged (some s)
  · exact hadopted

theorem replaceRules (h : m.HasRoom (n + 1)) (s : SheetId) (text : String) :
    ((ModelM.replaceRules s text).exec m).2.HasRoom n := by
  cases hs : m.sheet? s with
  | none =>
    rw [ModelM.exec_replaceRules_of_none hs]
    exact h.mono (Nat.le_succ n)
  | some sheet => exact replaceRules_of_withoutRules hs ((h.modifySheet s _).free _) text

/-- Nothing is freed for a new sheet, nor for the import that gets it. -/
theorem fill {held : List SheetId} (h : m.HasRoom n) (hsound : m.Sound held)
    (hr : m.rule? r = some rule) {href : String} {l : MediaList}
    (hc : rule.content = .importing href l none) (url text : String) (origin : Origin)
    {created : ObjectModel × SheetId} (hcreated : m.createSheet (some url) "" origin = created) :
    ((do
      ModelM.replaceRules created.2 text
      ModelM.attachImport r created.2 : ModelM Unit).exec created.1).2.HasRoom n := by
  have hroom : created.1.HasRoom n := hcreated ▸ ⟨h.sheets.insert _, h.rules⟩
  have hs : created.1.sheet? created.2 = some (.new (some url) (.ofString "") origin) := by
    rw [← hcreated, hsound.sheet?_createSheet, if_pos rfl]
  have hempty : (created.1.withoutRules created.2
      (.new (some url) (.ofString "") origin)).HasRoom n := by
    rw [withoutRules, show (StyleSheet.new (some url) (.ofString "") origin).owned = [] from rfl,
      ObjectModel.free]
    exact hroom.modifySheet _ _
  have hfilled := replaceRules_of_withoutRules hs hempty text
  obtain ⟨m₂, hrun, hfills, -, -, hother⟩ := hsound.fills_created h.sheets.unwrapped url text origin
    hcreated hfilled.unwrapped
  obtain ⟨ids, hs₂, -⟩ := hfills.filled
  have hr₂ : m₂.rule? r = some rule := rule?_of_untouched hother hr
  rw [hrun] at hfilled
  rw [ModelM.exec_bind, hrun]
  simp only [exec_attachImport_of_open hs₂ hr₂ hc]
  exact ((hfilled.setContent r _).modifySheet _ _).noteChanged _

end HasRoom

end ObjectModel
end WebStyle
