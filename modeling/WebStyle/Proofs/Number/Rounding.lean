import Mathlib.Algebra.Order.Field.Power
import Mathlib.Data.Rat.Cast.Order
import Mathlib.Tactic.Linarith
import Mathlib.Tactic.FieldSimp
import Mathlib.Tactic.Positivity
import Mathlib.Tactic.Ring
import WebStyle.Number.Binary64
/-!
Rounding, compared with exact values: to the nearest whole number, and to the nearest double. No
double is nearer to a quotient than the one it is rounded to.
-/
set_option autoImplicit false

namespace WebStyle

/-! ### Whole numbers -/

/-- Whether a whole number is nearest to a value; one that is half a unit away has to be even. -/
def IsNearestEven (x : ℚ) (n : Nat) : Prop := |x - n| < 1 / 2 ∨ |x - n| = 1 / 2 ∧ n % 2 = 0

theorem IsNearestEven.dist_le {x : ℚ} {n : Nat} (h : IsNearestEven x n) : |x - n| ≤ 1 / 2 :=
  h.elim le_of_lt fun h => le_of_eq h.1

/-- Two whole numbers are not both near to a value. -/
theorem one_le_dist_add_dist (x : ℚ) {n : Nat} {k : ℤ} (hne : k ≠ n) :
    1 ≤ |x - n| + |x - k| := by
  have hint : (1 : ℤ) ≤ |(n : ℤ) - k| := Int.one_le_abs (by omega)
  have hdist : (1 : ℚ) ≤ |(n : ℚ) - k| := by exact_mod_cast hint
  have htri := abs_sub_le (n : ℚ) x k
  rw [abs_sub_comm (n : ℚ) x] at htri
  exact hdist.trans htri

theorem IsNearestEven.unique {x : ℚ} {n k : Nat} (hn : IsNearestEven x n)
    (hk : IsNearestEven x k) : n = k := by
  by_contra hne
  have hsum : 1 ≤ |x - n| + |x - k| := by
    exact_mod_cast one_le_dist_add_dist x (n := n) (k := k) (by omega)
  have hn' := hn.dist_le
  have hk' := hk.dist_le
  -- both are half a unit away, so that both are even, but they differ by one
  have hneven : n % 2 = 0 := (hn.resolve_left (by linarith)).2
  have hkeven : k % 2 = 0 := (hk.resolve_left (by linarith)).2
  have hone : |(n : ℤ) - k| ≤ 1 := by
    have htri := abs_sub_le (n : ℚ) x k
    rw [abs_sub_comm (n : ℚ) x] at htri
    have : |(n : ℚ) - k| ≤ 1 := by linarith
    exact_mod_cast this
  rw [abs_le] at hone
  omega

theorem isNearestEven_roundHalfEven (num : Nat) {den : Nat} (hden : 0 < den) :
    IsNearestEven ((num : ℚ) / den) (roundHalfEven num den) := by
  have hpos : (0 : ℚ) < den := by exact_mod_cast hden
  have hsplit : (num : ℚ) / den = (num / den : Nat) + (num % den : Nat) / den := by
    rw [div_eq_iff hpos.ne', add_mul, div_mul_cancel₀ _ hpos.ne', mul_comm]
    exact_mod_cast (Nat.div_add_mod num den).symm
  have hlt : ((num % den : Nat) : ℚ) / den < 1 := by
    rw [div_lt_one hpos]
    exact_mod_cast Nat.mod_lt num hden
  have hnonneg : (0 : ℚ) ≤ ((num % den : Nat) : ℚ) / den := by positivity
  simp only [roundHalfEven]
  rw [hsplit, IsNearestEven]
  by_cases hlow : 2 * (num % den) < den
  · have hhalf : ((num % den : Nat) : ℚ) / den < 1 / 2 := by
      rw [div_lt_div_iff₀ hpos (by norm_num)]
      have : (2 * (num % den : Nat) : ℚ) < den := by exact_mod_cast hlow
      linarith
    rw [if_pos hlow, add_sub_cancel_left, abs_of_nonneg hnonneg]
    exact .inl hhalf
  · rw [if_neg hlow]
    by_cases hhigh : den < 2 * (num % den)
    · have hhalf : 1 / 2 < ((num % den : Nat) : ℚ) / den := by
        rw [div_lt_div_iff₀ (by norm_num) hpos]
        have : (den : ℚ) < 2 * (num % den : Nat) := by exact_mod_cast hhigh
        linarith
      rw [if_pos hhigh]
      refine .inl (abs_lt.2 ⟨?_, ?_⟩) <;>
        · push_cast
          linarith
    · have hhalf : ((num % den : Nat) : ℚ) / den = 1 / 2 := by
        have : 2 * (num % den) = den := by omega
        rw [div_eq_div_iff hpos.ne' (by norm_num)]
        have : (2 * (num % den : Nat) : ℚ) = den := by exact_mod_cast this
        linarith
      rw [if_neg hhigh]
      refine .inr ⟨?_, by omega⟩
      rcases Nat.mod_two_eq_zero_or_one (num / den) with h | h
      · rw [h, Nat.add_zero, add_sub_cancel_left, hhalf]
        norm_num
      · rw [h, hhalf]
        push_cast
        norm_num [abs_of_neg]

/-- Nothing whole is nearer. -/
theorem IsNearestEven.le {x : ℚ} {n : Nat} (h : IsNearestEven x n) (k : ℤ) :
    |x - n| ≤ |x - k| := by
  by_cases hk : k = n
  · rw [hk]
    exact le_refl _
  · have hsum := one_le_dist_add_dist x hk
    have hdist := h.dist_le
    linarith

/-! ### Doubles -/

theorem scaleBy_spec (num : Nat) {den : Nat} (hden : 0 < den) (e : Int) :
    0 < (scaleBy num den e).2 ∧
      ((scaleBy num den e).1 : ℚ) / (scaleBy num den e).2 = num / den * 2 ^ e := by
  have hpos : (0 : ℚ) < den := by exact_mod_cast hden
  have htwo : ∀ n, (twoTo n : ℚ) = 2 ^ n := fun n => by simp [twoTo]
  rw [scaleBy]
  split
  · rename_i he
    obtain ⟨k, rfl⟩ : ∃ k : Nat, e = -k := ⟨e.natAbs, by omega⟩
    refine ⟨Nat.mul_pos hden (Nat.two_pow_pos _), ?_⟩
    rw [Int.natAbs_neg, Int.natAbs_natCast, Nat.cast_mul, htwo, zpow_neg, zpow_natCast]
    field_simp
  · rename_i he
    obtain ⟨k, rfl⟩ : ∃ k : Nat, e = k := ⟨e.natAbs, by omega⟩
    refine ⟨hden, ?_⟩
    rw [Int.natAbs_natCast, Nat.cast_mul, htwo, zpow_natCast]
    field_simp

namespace Binary64

variable {num den : Nat}

/-- The logarithms of numerator and denominator tell that of the quotient, up to one. -/
theorem quotient_bounds (hnum : num ≠ 0) (hden : 0 < den) :
    (2 : ℚ) ^ ((num.log2 : Int) - den.log2 - 1) < num / den ∧
      (num : ℚ) / den < 2 ^ ((num.log2 : Int) - den.log2 + 1) := by
  have hpos : (0 : ℚ) < den := by exact_mod_cast hden
  have hnumLow : (2 : ℚ) ^ num.log2 ≤ num := by exact_mod_cast Nat.log2_self_le hnum
  have hnumHigh : (num : ℚ) < 2 ^ (num.log2 + 1) := by exact_mod_cast @Nat.lt_log2_self num
  have hdenLow : (2 : ℚ) ^ den.log2 ≤ den := by
    exact_mod_cast Nat.log2_self_le (Nat.pos_iff_ne_zero.1 hden)
  have hdenHigh : (den : ℚ) < 2 ^ (den.log2 + 1) := by exact_mod_cast @Nat.lt_log2_self den
  have hpow : ∀ a b : Nat, (2 : ℚ) ^ ((a : Int) - b) = 2 ^ a / 2 ^ b := fun a b => by
    rw [zpow_sub₀ (by norm_num), zpow_natCast, zpow_natCast]
  constructor
  · have hexp : (num.log2 : Int) - den.log2 - 1 = (num.log2 : Int) - (den.log2 + 1 : Nat) := by
      omega
    rw [hexp, hpow, div_lt_div_iff₀ (by positivity) hpos]
    calc (2 : ℚ) ^ num.log2 * den < 2 ^ num.log2 * 2 ^ (den.log2 + 1) :=
          mul_lt_mul_of_pos_left hdenHigh (by positivity)
      _ ≤ num * 2 ^ (den.log2 + 1) := mul_le_mul_of_nonneg_right hnumLow (by positivity)
  · have hexp : (num.log2 : Int) - den.log2 + 1 = (num.log2 + 1 : Nat) - (den.log2 : Int) := by
      omega
    rw [hexp, hpow, div_lt_div_iff₀ hpos (by positivity)]
    calc (num : ℚ) * 2 ^ den.log2 < 2 ^ (num.log2 + 1) * 2 ^ den.log2 :=
          mul_lt_mul_of_pos_right hnumHigh (by positivity)
      _ ≤ 2 ^ (num.log2 + 1) * den := mul_le_mul_of_nonneg_left hdenLow (by positivity)

theorem twoTo_le_div_iff (hden : 0 < den) (k : Nat) :
    twoTo k ≤ num / den ↔ (2 : ℚ) ^ k ≤ num / den := by
  have hpos : (0 : ℚ) < den := by exact_mod_cast hden
  rw [Nat.le_div_iff_mul_le hden, le_div_iff₀ hpos]
  exact_mod_cast Iff.rfl

/-- The places of a double around a quotient: the quotient takes 53 of them, or the last place is
that of the smallest doubles. -/
theorem lastPlace_spec (hnum : num ≠ 0) (hden : 0 < den) :
    (num : ℚ) / den < 2 ^ (lastPlace num den + 53) ∧
      ((2 : ℚ) ^ (lastPlace num den + 52) ≤ num / den ∨ lastPlace num den = -1074) ∧
      -1074 ≤ lastPlace num den := by
  obtain ⟨hlow, hhigh⟩ := quotient_bounds hnum hden
  obtain ⟨hd, hscale⟩ := scaleBy_spec num hden (-((num.log2 : Int) - den.log2 - 53))
  have hmono : ∀ {a b : Int}, a ≤ b → (2 : ℚ) ^ a ≤ 2 ^ b := fun h =>
    zpow_le_zpow_right₀ (by norm_num) h
  have hcond := @twoTo_le_div_iff (scaleBy num den (-((num.log2 : Int) - den.log2 - 53))).1 _ hd 53
  rw [hscale] at hcond
  simp only [lastPlace, hcond]
  generalize (num.log2 : Int) - den.log2 = b at *
  obtain ⟨e, rfl⟩ : ∃ e, b = e + 53 := ⟨b - 53, by omega⟩
  rw [show e + 53 - 1 = e + 52 by omega] at hlow
  rw [show e + 53 + 1 = e + 54 by omega] at hhigh
  rw [show e + 53 - 53 = e by omega]
  generalize (num : ℚ) / den = x at *
  have hscaled : (2 : ℚ) ^ 53 ≤ x * 2 ^ (-e) ↔ (2 : ℚ) ^ (e + 53) ≤ x := by
    rw [zpow_neg, ← div_eq_mul_inv, le_div_iff₀ (by positivity), zpow_add₀ (by norm_num), mul_comm]
    rfl
  simp only [hscaled]
  -- the place before it is bounded by that of the smallest doubles
  have hplace : ∀ f : Int, x < 2 ^ (f + 53) → (2 : ℚ) ^ (f + 52) ≤ x →
      x < 2 ^ (max f (-1074) + 53) ∧
        ((2 : ℚ) ^ (max f (-1074) + 52) ≤ x ∨ max f (-1074) = -1074) ∧ -1074 ≤ max f (-1074) := by
    intro f hf hf'
    refine ⟨hf.trans_le (hmono (by omega)), ?_, le_max_right _ _⟩
    rcases le_total f (-1074) with h | h
    · exact .inr (max_eq_right h)
    · rw [max_eq_left h]
      exact .inl hf'
  split
  · rename_i hle
    refine hplace (e + 1) ?_ ?_
    · rwa [show e + 1 + 53 = e + 54 by omega]
    · rwa [show e + 1 + 52 = e + 53 by omega]
  · rename_i hlt
    exact hplace e (not_le.1 hlt) hlow.le

/-- Whether a number is one of the finite doubles, or none at all. -/
def IsDouble : Binary64 → Prop
  | .finite _ m e => m < 2 ^ 53 ∧ -1074 ≤ e ∧ e ≤ 971
  | _ => True

/-- The magnitude of a double with the given mantissa and exponent. -/
def magnitude (m : Nat) (e : Int) : ℚ := m * 2 ^ e

/-- No double is nearer to a quotient than the one that its last place gives. -/
theorem magnitude_nearest (hnum : num ≠ 0) (hden : 0 < den) {n : Nat}
    (hn : IsNearestEven ((num : ℚ) / den * 2 ^ (-lastPlace num den)) n) {m : Nat} {e : Int}
    (hm : m < 2 ^ 53) (he : -1074 ≤ e) :
    |(num : ℚ) / den - magnitude n (lastPlace num den)| ≤ |(num : ℚ) / den - magnitude m e| := by
  obtain ⟨hhigh, hlow, -⟩ := lastPlace_spec hnum hden
  generalize lastPlace num den = f at *
  generalize (num : ℚ) / den = x at *
  have hpos : (0 : ℚ) < 2 ^ f := by positivity
  -- no multiple of the last place is nearer
  have hmultiple : ∀ k : ℤ, |x - magnitude n f| ≤ |x - k * 2 ^ f| := by
    intro k
    have hk := hn.le k
    have hunit : ∀ y : ℚ, |x - y * 2 ^ f| = |x * 2 ^ (-f) - y| * 2 ^ f := by
      intro y
      rw [← abs_of_pos hpos, ← abs_mul, abs_of_pos hpos, sub_mul, mul_assoc,
        ← zpow_add₀ (by norm_num)]
      simp
    rw [magnitude, hunit, hunit]
    exact mul_le_mul_of_nonneg_right hk hpos.le
  rcases le_or_gt f e with hfe | hfe
  · obtain ⟨k, rfl⟩ : ∃ k : Nat, e = f + k := ⟨(e - f).natAbs, by omega⟩
    refine (hmultiple (m * 2 ^ k)).trans (le_of_eq ?_)
    rw [magnitude, zpow_add₀ (by norm_num), zpow_natCast]
    push_cast
    ring_nf
  · have hlow' : (2 : ℚ) ^ (f + 52) ≤ x := hlow.resolve_right (by omega)
    -- the power of two between the quotient and the other double is a multiple of the last place
    refine (hmultiple (2 ^ 52)).trans ?_
    have hpower : (((2 : ℤ) ^ 52 : ℤ) : ℚ) * 2 ^ f = 2 ^ (f + 52) := by
      rw [zpow_add₀ (by norm_num), mul_comm]
      norm_num
    have hother : magnitude m e ≤ 2 ^ (f + 52) := by
      calc magnitude m e ≤ 2 ^ 53 * 2 ^ e :=
            mul_le_mul_of_nonneg_right (by exact_mod_cast hm.le) (by positivity)
        _ = 2 ^ (e + 53) := by rw [zpow_add₀ (by norm_num), mul_comm]; rfl
        _ ≤ 2 ^ (f + 52) := zpow_le_zpow_right₀ (by norm_num) (by omega)
    rw [hpower, abs_of_nonneg (by linarith), abs_of_nonneg (by linarith)]
    linarith

/-- What a quotient is rounded to, and when that is not too large for a double. -/
theorem nearest_spec (hnum : num ≠ 0) (hden : 0 < den) (negative : Bool) :
    ∃ m e, nearest negative num den =
        (if 971 < e then .infinite negative else .finite negative m e) ∧
      m < 2 ^ 53 ∧ -1074 ≤ e ∧
      (∀ m' e', m' < 2 ^ 53 → -1074 ≤ e' →
        |(num : ℚ) / den - magnitude m e| ≤ |(num : ℚ) / den - magnitude m' e'|) ∧
      ((num : ℚ) / den < (2 ^ 53 - 1 / 2) * 2 ^ (971 : Int) → e ≤ 971) := by
  obtain ⟨hhigh, hlow, hle⟩ := lastPlace_spec hnum hden
  obtain ⟨hd, hscale⟩ := scaleBy_spec num hden (-lastPlace num den)
  have hround := isNearestEven_roundHalfEven (scaleBy num den (-lastPlace num den)).1 hd
  rw [hscale] at hround
  have hnearest := fun m e => @magnitude_nearest _ _ hnum hden _ hround m e
  simp only [nearest, if_neg hnum]
  generalize roundHalfEven _ _ = n at *
  generalize lastPlace num den = f at *
  generalize (num : ℚ) / den = x at *
  have hunits : ∀ {y : ℚ}, x < y * 2 ^ f → x * 2 ^ (-f) < y := by
    intro y h
    rw [zpow_neg, ← div_eq_mul_inv, div_lt_iff₀ (by positivity)]
    exact h
  have hdist := abs_le.1 hround.dist_le
  have hn : n ≤ 2 ^ 53 := by
    have := hunits (y := 2 ^ 53) (by rwa [zpow_add₀ (by norm_num), mul_comm] at hhigh)
    have hlt : (n : ℚ) < 2 ^ 53 + 1 := by linarith
    have hlt' : n < 2 ^ 53 + 1 := by exact_mod_cast hlt
    omega
  have hf : x < (2 ^ 53 - 1 / 2) * 2 ^ (971 : Int) → f ≤ 971 := by
    intro hlt
    by_contra hf
    have hlow' := hlow.resolve_right (by omega)
    have hpower : (2 : ℚ) ^ (53 + 971 : Int) ≤ 2 ^ (f + 52) :=
      zpow_le_zpow_right₀ (by norm_num) (by omega)
    rw [zpow_add₀ (by norm_num)] at hpower
    have hpos : (0 : ℚ) < 2 ^ (971 : Int) := by positivity
    have hsum : x < 2 ^ (53 : Int) * 2 ^ (971 : Int) :=
      hlt.trans (mul_lt_mul_of_pos_right (by norm_num) hpos)
    exact absurd (hsum.trans_le (hpower.trans hlow')) (lt_irrefl x)
  by_cases hcarry : n = twoTo 53
  · have hcast : (n : ℚ) = 2 ^ 53 := by
      rw [hcarry, twoTo]
      norm_num
    have hsame : magnitude (twoTo 52) (f + 1) = magnitude n f := by
      rw [magnitude, magnitude, hcast, zpow_add₀ (by norm_num), twoTo]
      norm_num
      ring
    rw [if_pos hcarry]
    refine ⟨twoTo 52, f + 1, rfl, Nat.pow_lt_pow_right (by decide) (by decide), by omega, ?_,
      fun hlt => ?_⟩
    · rw [hsame]
      exact hnearest
    · have hf' : f ≠ 971 := by
        intro heq
        have := hunits (heq ▸ hlt)
        linarith
      have := hf hlt
      omega
  · rw [if_neg hcarry]
    exact ⟨n, f, rfl, lt_of_le_of_ne hn hcarry, hle, hnearest, hf⟩

theorem isDouble_zero (negative : Bool) : (zero negative).IsDouble :=
  ⟨by decide, le_refl _, by decide⟩

theorem isDouble_nearest (num : Nat) (hden : 0 < den) (negative : Bool) :
    (nearest negative num den).IsDouble := by
  by_cases hnum : num = 0
  · rw [nearest, if_pos hnum]
    exact isDouble_zero negative
  · obtain ⟨m, e, heq, hm, he, -, -⟩ := nearest_spec hnum hden negative
    rw [heq]
    split
    · trivial
    · rename_i hle
      exact ⟨hm, he, not_lt.1 hle⟩

/-- What is read is one of the doubles. -/
theorem isDouble_ofDecimal (negative : Bool) (digits : Nat) (exponent : Int) :
    (ofDecimal negative digits exponent).IsDouble := by
  rw [ofDecimal]
  split
  · exact isDouble_zero negative
  split
  · trivial
  split
  · exact isDouble_zero negative
  split
  · exact isDouble_nearest _ (Nat.pow_pos (by decide)) negative
  · exact isDouble_nearest _ Nat.one_pos negative

theorem natAbs_signed (negative : Bool) (n : Nat) : (signed negative n).natAbs = n := by
  cases negative
  · exact Int.natAbs_natCast n
  · exact (Int.natAbs_neg _).trans (Int.natAbs_natCast n)

/-- The whole number that a double holds is its magnitude. -/
theorem natAbs_of_toInt? {negative : Bool} {m : Nat} {e i : Int}
    (h : (finite negative m e).toInt? = some i) : (i.natAbs : ℚ) = magnitude m e := by
  obtain ⟨hd, hscale⟩ := scaleBy_spec m Nat.one_pos e
  simp only [toInt?] at h
  split at h
  · rename_i hdvd
    obtain rfl := Option.some.inj h
    obtain ⟨k, hk⟩ := Nat.dvd_of_mod_eq_zero hdvd
    have hne : ((scaleBy m 1 e).2 : ℚ) ≠ 0 := by exact_mod_cast hd.ne'
    rw [hk, Nat.cast_mul, mul_div_cancel_left₀ _ hne, Nat.cast_one, div_one] at hscale
    rw [natAbs_signed, hk, Nat.mul_div_cancel_left k hd]
    exact hscale
  · cases h

/-- A number with too many places is rounded, but to none that has fewer. -/
theorem le_natAbs_of_toInt?_ofDecimal {n : Nat} (h : 2 ^ 53 ≤ n) {negative : Bool} {i : Int}
    (hi : (ofDecimal negative n 0).toInt? = some i) : 2 ^ 53 ≤ i.natAbs := by
  have hn : n ≠ 0 := by omega
  have hmul : n * tenTo (Int.natAbs 0) = n := Nat.mul_one n
  rw [ofDecimal, if_neg hn, if_neg (by decide), if_neg (by omega), if_neg (by decide), hmul] at hi
  obtain ⟨m, e, heq, -, -, hnear, -⟩ := nearest_spec hn Nat.one_pos negative
  rw [heq] at hi
  split at hi
  · cases hi
  have hcompare := hnear (2 ^ 52) 1 (by decide) (by decide)
  have hpower : magnitude (2 ^ 52) 1 = 2 ^ 53 := by
    rw [magnitude]
    norm_num
  have hle : ((2 : ℚ) ^ 53) ≤ n := by exact_mod_cast h
  rw [hpower, Nat.cast_one, div_one, ← natAbs_of_toInt? hi,
    abs_of_nonneg (sub_nonneg.2 hle)] at hcompare
  have hlow := (le_abs_self _).trans hcompare
  have hresult : ((2 : ℚ) ^ 53) ≤ i.natAbs := by linarith
  exact_mod_cast hresult

end Binary64

end WebStyle
