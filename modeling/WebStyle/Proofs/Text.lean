import WebStyle.Text.Ascii
/-!
The letters of ASCII, and lowering them in a text.
-/
set_option autoImplicit false

namespace WebStyle

/-- The code points of the letters. -/
theorem isAlpha_iff_toNat {c : Char} :
    c.isAlpha ↔ 65 ≤ c.toNat ∧ c.toNat ≤ 90 ∨ 97 ≤ c.toNat ∧ c.toNat ≤ 122 := by
  have hupper : c.isUpper ↔ 65 ≤ c.toNat ∧ c.toNat ≤ 90 := decide_eq_true_iff
  have hlower : c.isLower ↔ 97 ≤ c.toNat ∧ c.toNat ≤ 122 :=
    Bool.and_eq_true_iff.trans (and_congr decide_eq_true_iff decide_eq_true_iff)
  exact Bool.or_eq_true_iff.trans (or_congr hupper hlower)

/-- Lowering shifts the upper-case letters and leaves all other characters alone. -/
theorem toNat_toLower (c : Char) :
    c.toLower.toNat = if 65 ≤ c.toNat ∧ c.toNat ≤ 90 then c.toNat + 32 else c.toNat := by
  have hiff : (c.val ≥ 'A'.val ∧ c.val ≤ 'Z'.val) ↔ 65 ≤ c.toNat ∧ c.toNat ≤ 90 := by
    simp only [ge_iff_le, UInt32.le_iff_toNat_le]
    exact Iff.rfl
  unfold Char.toLower
  split
  · rename_i h
    rw [if_pos (hiff.1 h)]
    change (c.val + 32).toNat = c.toNat + 32
    have hle := (hiff.1 h).2
    rw [UInt32.toNat_add]
    refine Nat.mod_eq_of_lt ?_
    change c.toNat + 32 < _
    omega
  · rename_i h
    rw [if_neg fun hc => h (hiff.2 hc)]

theorem toLower_toLower (c : Char) : c.toLower.toLower = c.toLower := by
  apply Char.toNat_inj.1
  rw [toNat_toLower, toNat_toLower]
  by_cases h : 65 ≤ c.toNat ∧ c.toNat ≤ 90
  · rw [if_pos h, if_neg (by omega)]
  · rw [if_neg h, if_neg h]

theorem isUpper_toLower (c : Char) : ¬ c.toLower.isUpper := by
  have hupper : c.toLower.isUpper ↔ 65 ≤ c.toLower.toNat ∧ c.toLower.toNat ≤ 90 :=
    decide_eq_true_iff
  rw [hupper, toNat_toLower]
  split <;> omega

theorem toLower_of_isDigit {c : Char} (h : c.isDigit) : c.toLower = c := by
  simp only [Char.isDigit, Bool.and_eq_true, decide_eq_true_eq, ge_iff_le,
    UInt32.le_iff_toNat_le] at h
  change 48 ≤ c.toNat ∧ c.toNat ≤ 57 at h
  apply Char.toNat_inj.1
  rw [toNat_toLower, if_neg (by omega)]

theorem toLower_eq_nul {c : Char} : c.toLower = '\x00' ↔ c = '\x00' := by
  rw [← Char.toNat_inj, ← Char.toNat_inj, toNat_toLower]
  change _ = 0 ↔ _ = 0
  split <;> omega

namespace Text

theorem toList_lower (s : String) : (lower s).toList = s.toList.map Char.toLower :=
  String.toList_ofList

@[simp] theorem lower_lower (s : String) : lower (lower s) = lower s := by
  rw [lower, toList_lower, List.map_map]
  congr 2
  funext c
  exact toLower_toLower c

theorem lower_ne_empty {s : String} (h : s ≠ "") : lower s ≠ "" := by
  intro heq
  have hnil : s.toList.map Char.toLower = [] := by
    rw [← toList_lower, heq]
    rfl
  exact h (by simpa using hnil)

theorem nul_notMem_lower {s : String} (h : '\x00' ∉ s.toList) : '\x00' ∉ (lower s).toList := by
  rw [toList_lower]
  intro hmem
  obtain ⟨c, hc, heq⟩ := List.mem_map.1 hmem
  exact h (toLower_eq_nul.1 heq ▸ hc)

end Text

end WebStyle
