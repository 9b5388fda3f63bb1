import WebStyle.Proofs.ObjectModel.Imports
/-!
The sheets around a sheet that was imported. A sheet that is visited lies within sheets that are
visited, up to one that is held.
-/
set_option autoImplicit false

namespace WebStyle.ObjectModel

variable {m m' : ObjectModel} {held : List SheetId} {s : SheetId} {r : RuleId} {l l' : List SheetId}

/-- Whether sheets of imports lie in the sheets of the imports, and sheets that are held in none. -/
structure Nested (held : List SheetId) (m : ObjectModel) : Prop where
  inner : ∀ r rule s sheet p, m.rule? r = some rule → .sheet s ∈ rule.content.owned →
    m.sheet? s = some sheet → rule.parentSheet = some p → sheet.parentSheet = some p
  outer : ∀ s ∈ held, ∀ sheet, m.sheet? s = some sheet → sheet.parentSheet = none

theorem Nested.held_subset {held' : List SheetId} (h : m.Nested held) (hs : held' ⊆ held) :
    m.Nested held' :=
  ⟨h.inner, fun s hs' => h.outer s (hs hs')⟩

theorem Nested.rewires (hn : m.Nested held) (h : m.Sound held) (hr : m.Rewires m') :
    m'.Nested held where
  inner r rule' s sheet' p hrule' hs hsheet' hp := by
    obtain ⟨rule, hrule, hs, hpp⟩ := hr.attached r rule' s hrule' hs
    rw [hp] at hpp
    rcases hr.parent s sheet' hsheet' with ⟨sheet, hsheet, hparent⟩ | ⟨hfresh, -⟩
    · rw [hparent]
      exact hn.inner r rule s sheet p hrule hs hsheet (hpp.resolve_right (by simp)).symm
    · exact absurd (h.issued (.rule r) s ((mem_ownedBy_rule hrule).2 hs)) hfresh
  outer s hs sheet' hsheet' := by
    rcases hr.parent s sheet' hsheet' with ⟨sheet, hsheet, hparent⟩ | ⟨-, hparent⟩
    · exact hparent.trans (hn.outer s hs sheet hsheet)
    · exact hparent

/-- The sheets around a sheet, from itself to the outermost one. -/
inductive IsChain (m : ObjectModel) : SheetId → List SheetId → Prop where
  | outer {s : SheetId} {sheet : StyleSheet} (hs : m.sheet? s = some sheet)
      (hp : sheet.parentSheet = none) : IsChain m s [s]
  | inner {s p : SheetId} {sheet : StyleSheet} {l : List SheetId} (hs : m.sheet? s = some sheet)
      (hp : sheet.parentSheet = some p) (h : IsChain m p l) : IsChain m s (s :: l)

namespace IsChain

theorem unique (h : m.IsChain s l) (h' : m.IsChain s l') : l = l' := by
  induction h generalizing l' with
  | outer hs hp =>
    cases h' with
    | outer => rfl
    | inner hs' hp' =>
      obtain rfl := Option.some.inj (hs.symm.trans hs')
      simp [hp] at hp'
  | inner hs hp _ ih =>
    cases h' with
    | outer hs' hp' =>
      obtain rfl := Option.some.inj (hs.symm.trans hs')
      simp [hp] at hp'
    | inner hs' hp' h' =>
      obtain rfl := Option.some.inj (hs.symm.trans hs')
      obtain rfl := Option.some.inj (hp.symm.trans hp')
      rw [ih h']

theorem isSome (h : m.IsChain s l) : ∀ x ∈ l, (m.sheet? x).isSome := by
  induction h with
  | outer hs => simp [hs]
  | inner hs _ _ ih => simpa [hs] using ih

/-- The chain of a sheet around is an end of the chain. -/
theorem exists_of_mem {x : SheetId} (h : m.IsChain s l) (hx : x ∈ l) :
    ∃ l', m.IsChain x l' ∧ l'.length ≤ l.length := by
  induction h with
  | outer hs hp =>
    obtain rfl := List.mem_singleton.1 hx
    exact ⟨_, .outer hs hp, Nat.le_refl _⟩
  | inner hs hp h ih =>
    rcases List.mem_cons.1 hx with rfl | hx
    · exact ⟨_, .inner hs hp h, Nat.le_refl _⟩
    · obtain ⟨l', hl', hle⟩ := ih hx
      exact ⟨l', hl', Nat.le_succ_of_le hle⟩

theorem nodup (h : m.IsChain s l) : l.Nodup := by
  induction h with
  | outer => simp
  | inner hs hp h ih =>
    refine List.nodup_cons.2 ⟨fun hmem => ?_, ih⟩
    obtain ⟨l', hl', hle⟩ := h.exists_of_mem hmem
    rw [← (inner hs hp h).unique hl', List.length_cons] at hle
    omega

theorem importChainFuel_eq (h : m.IsChain s l) {fuel : Nat} {seen : List SheetId}
    (hf : l.length ≤ fuel) (hseen : ∀ x ∈ l, x ∉ seen) :
    m.importChainFuel fuel seen (some s) = l := by
  induction h generalizing fuel seen with
  | @outer s sheet hs hp =>
    obtain ⟨fuel, rfl⟩ : ∃ k, fuel = k + 1 :=
      ⟨fuel - 1, by simp only [List.length_singleton] at hf; omega⟩
    have hs' : seen.contains s = false := by simpa using hseen s (by simp)
    rw [importChainFuel, hs]
    simp only [hs', Bool.false_eq_true, ↓reduceIte, hp]
    cases fuel <;> rfl
  | @inner s p sheet l hs hp h ih =>
    obtain ⟨fuel, rfl⟩ : ∃ k, fuel = k + 1 :=
      ⟨fuel - 1, by simp only [List.length_cons] at hf; omega⟩
    have hs' : seen.contains s = false := by simpa using hseen s (by simp)
    have hnodup := (IsChain.inner hs hp h).nodup
    rw [importChainFuel, hs]
    simp only [hs', Bool.false_eq_true, ↓reduceIte, hp]
    rw [ih (by simpa using hf) fun x hx hmem => ?_]
    rcases List.mem_cons.1 hmem with rfl | hmem
    · exact (List.nodup_cons.1 hnodup).1 hx
    · exact hseen x (List.mem_cons_of_mem _ hx) hmem

theorem importChain_eq (h : m.IsChain s l) : m.importChain s = l := by
  have hle : l.length ≤ m.sheets.slots.size := Slots.length_le_size h.nodup h.isSome
  exact h.importChainFuel_eq (Nat.le_succ_of_le hle) (by simp)

/-- A chain depends on its sheets only. -/
theorem congr (h : m.IsChain s l) (hsame : ∀ x ∈ l, m'.sheet? x = m.sheet? x) :
    m'.IsChain s l := by
  induction h with
  | outer hs hp => exact .outer ((hsame _ (by simp)).trans hs) hp
  | inner hs hp _ ih =>
    exact .inner ((hsame _ (by simp)).trans hs) hp
      (ih fun x hx => hsame x (List.mem_cons_of_mem _ hx))

end IsChain

/-- Sheets that are visited lie in such sheets, and so do the rules. -/
theorem Nested.exists_isChain (hn : m.Nested held) (h : m.Sound held) :
    (∀ s, m.Visits held (.sheet s) → (m.sheet? s).isSome →
      ∃ l, m.IsChain s l ∧ ∀ x ∈ l, m.Visits held (.sheet x)) ∧
    ∀ r rule p, m.Visits held (.rule r) → m.rule? r = some rule → rule.parentSheet = some p →
      ∃ l, m.IsChain p l ∧ ∀ x ∈ l, m.Visits held (.sheet x) := by
  have main : ∀ s₀ ∈ held, ∀ q, Relation.ReflTransGen (fun p q => q ∈ m.shownBy p) (.sheet s₀) q →
      (∀ s, q = .sheet s → (m.sheet? s).isSome →
        ∃ l, m.IsChain s l ∧ ∀ x ∈ l, m.Visits held (.sheet x)) ∧
      ∀ r, q = .rule r → ∀ rule p, m.rule? r = some rule → rule.parentSheet = some p →
        ∃ l, m.IsChain p l ∧ ∀ x ∈ l, m.Visits held (.sheet x) := by
    intro s₀ hs₀ q hpath
    induction hpath with
    | refl =>
      refine ⟨fun s hs hlive => ?_, by rintro r ⟨⟩⟩
      obtain rfl := ModelPart.sheet.inj hs
      obtain ⟨sheet, hsheet⟩ := Option.isSome_iff_exists.1 hlive
      exact ⟨_, .outer hsheet (hn.outer s₀ hs₀ sheet hsheet), by simpa using visits_held hs₀⟩
    | @tail b c hab hbc ih =>
      have hvb : m.Visits held b := ⟨s₀, hs₀, hab⟩
      have howned := m.shownBy_subset_ownedBy b hbc
      constructor
      · rintro s rfl hlive
        -- sheets are shown by imports
        cases b with
        | sheet x =>
          obtain ⟨sheet, hx⟩ := Option.isSome_iff_exists.1 (isLive_of_mem_ownedBy howned)
          simp [shownBy, hx] at hbc
        | rule x =>
          obtain ⟨rule, p, hrule, hp, -⟩ := h.exists_sheet_of_visits_rule hvb
          obtain ⟨sheet, hsheet⟩ := Option.isSome_iff_exists.1 hlive
          obtain ⟨l, hl, hvl⟩ := ih.2 x rfl rule p hrule hp
          have hparent := hn.inner x rule s sheet p hrule ((mem_ownedBy_rule hrule).1 howned)
            hsheet hp
          refine ⟨s :: l, .inner hsheet hparent hl, fun y hy => ?_⟩
          rcases List.mem_cons.1 hy with rfl | hy
          · exact hvb.shown hbc
          · exact hvl y hy
      · rintro r rfl rule p hrule hp
        cases b with
        | sheet x =>
          have hlive := isLive_of_mem_ownedBy howned
          obtain ⟨sheet, hx⟩ := Option.isSome_iff_exists.1 hlive
          have hr : r ∈ sheet.rules := by simpa [shownBy, hx] using hbc
          obtain rfl := Option.some.inj (hp.symm.trans (h.inSheet x sheet hx r hr rule hrule))
          exact ih.1 p rfl hlive
        | rule x =>
          obtain ⟨outer, hx⟩ := Option.isSome_iff_exists.1 (isLive_of_mem_ownedBy howned)
          have hr := RuleContent.mem_owned_rule.1 ((mem_ownedBy_rule hx).1 howned)
          exact ih.2 x rfl outer p hx ((h.inMedia x outer hx r hr rule hrule).symm.trans hp)
  refine ⟨fun s hv hlive => ?_, fun r rule p hv hr hp => ?_⟩
  · obtain ⟨s₀, hs₀, hpath⟩ := hv
    exact (main s₀ hs₀ _ hpath).1 s rfl hlive
  · obtain ⟨s₀, hs₀, hpath⟩ := hv
    exact (main s₀ hs₀ _ hpath).2 r rfl rule p hr hp

end WebStyle.ObjectModel
