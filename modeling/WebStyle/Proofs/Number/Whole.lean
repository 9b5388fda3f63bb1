import WebStyle.Proofs.Token.Lexing
import WebStyle.Selector.Nth
/-!
Whole numbers: their digits read back as they were printed, and doubles hold them exactly.
-/
set_option autoImplicit false

namespace WebStyle

open Lexer

variable {n : Nat} {r cs : List Char} {sign : Option Sign}

/-! ### Doubles -/

namespace Binary64

theorem log2_bounds (hn : n ≠ 0) (h : n < 2 ^ 53) :
    n.log2 ≤ 52 ∧ 2 ^ n.log2 ≤ n ∧ n < 2 ^ (n.log2 + 1) := by
  refine ⟨?_, Nat.log2_self_le hn, Nat.lt_log2_self⟩
  have := (Nat.log2_lt hn).2 h
  omega

theorem lastPlace_whole (hn : n ≠ 0) (h : n < 2 ^ 53) : lastPlace n 1 = (n.log2 : Int) - 52 := by
  obtain ⟨hlog, hlow, -⟩ := log2_bounds hn h
  have hexp : (-((n.log2 : Int) - 0 - 53)).natAbs = 53 - n.log2 := by omega
  have hscale : scaleBy n 1 (-((n.log2 : Int) - 0 - 53)) = (n * 2 ^ (53 - n.log2), 1) := by
    rw [scaleBy, if_neg (by omega), hexp]
    rfl
  have hlarge : twoTo 53 ≤ n * 2 ^ (53 - n.log2) := by
    calc 2 ^ 53 = 2 ^ n.log2 * 2 ^ (53 - n.log2) := by rw [← Nat.pow_add]; congr 1; omega
      _ ≤ n * 2 ^ (53 - n.log2) := Nat.mul_le_mul_right _ hlow
  have hone : ((Nat.log2 1 : Nat) : Int) = 0 := by decide
  simp only [lastPlace, hone, hscale, Nat.div_one, if_pos hlarge]
  omega

theorem nearest_whole (hn : n ≠ 0) (h : n < 2 ^ 53) (negative : Bool) :
    nearest negative n 1 = .finite negative (n * 2 ^ (52 - n.log2)) ((n.log2 : Int) - 52) := by
  obtain ⟨hlog, -, hhigh⟩ := log2_bounds hn h
  have hexp : (-((n.log2 : Int) - 52)).natAbs = 52 - n.log2 := by omega
  have hscale : scaleBy n 1 (-((n.log2 : Int) - 52)) = (n * 2 ^ (52 - n.log2), 1) := by
    rw [scaleBy, if_neg (by omega), hexp]
    rfl
  have hsmall : n * 2 ^ (52 - n.log2) < 2 ^ 53 := by
    calc n * 2 ^ (52 - n.log2) < 2 ^ (n.log2 + 1) * 2 ^ (52 - n.log2) :=
          Nat.mul_lt_mul_of_pos_right hhigh (Nat.two_pow_pos _)
      _ = 2 ^ 53 := by rw [← Nat.pow_add]; congr 1; omega
  have hround : roundHalfEven (n * 2 ^ (52 - n.log2)) 1 = n * 2 ^ (52 - n.log2) := by
    simp [roundHalfEven, Nat.mod_one]
  have hne : n * 2 ^ (52 - n.log2) ≠ twoTo 53 := Nat.ne_of_lt hsmall
  simp only [nearest, if_neg hn, lastPlace_whole hn h, hscale, hround, if_neg hne]
  rw [if_neg (by omega)]

/-- Whole numbers of up to 53 bits are held exactly. -/
theorem toInt?_ofDecimal (h : n < 2 ^ 53) (negative : Bool) :
    (ofDecimal negative n 0).toInt? = some (signed negative n) := by
  by_cases hn : n = 0
  · subst hn
    simp [ofDecimal, zero, toInt?, scaleBy]
  · obtain ⟨hlog, -, -⟩ := log2_bounds hn h
    have hmul : n * tenTo (Int.natAbs 0) = n := Nat.mul_one n
    rw [ofDecimal, if_neg hn, if_neg (by decide), if_neg (by omega), if_neg (by decide), hmul,
      nearest_whole hn h]
    have hpos := Nat.two_pow_pos (52 - n.log2)
    by_cases hlast : n.log2 = 52
    · simp [toInt?, scaleBy, hlast, twoTo, Nat.mod_one]
    · have hexp : ((n.log2 : Int) - 52).natAbs = 52 - n.log2 := by omega
      have hscale : scaleBy (n * 2 ^ (52 - n.log2)) 1 ((n.log2 : Int) - 52) =
          (n * 2 ^ (52 - n.log2), 2 ^ (52 - n.log2)) := by
        rw [scaleBy, if_pos (by omega), hexp, Nat.one_mul]
        rfl
      simp only [toInt?, hscale, Nat.mul_mod_left, ↓reduceIte, Nat.mul_div_cancel _ hpos]

end Binary64

/-! ### Digits -/

theorem isDigit_of_mem_toDigits {c : Char} (h : c ∈ Nat.toDigits 10 n) : c.isDigit :=
  Nat.isDigit_of_mem_toDigits (by decide) (by decide) h

theorem digitsValue_toDigits (n : Nat) : Text.digitsValue (Nat.toDigits 10 n) = n :=
  Nat.ofDigitChars_ten_toDigits

theorem toDigits_eq_cons (n : Nat) : ∃ c r, Nat.toDigits 10 n = c :: r ∧ c.isDigit := by
  cases hd : Nat.toDigits 10 n with
  | nil => exact absurd hd Nat.toDigits_ne_nil
  | cons c r => exact ⟨c, r, rfl, isDigit_of_mem_toDigits (n := n) (hd ▸ List.mem_cons_self)⟩

namespace Numeral

/-- Whether a text cannot go on with a whole number that stands before it. -/
def EndsWhole (r : List Char) : Prop :=
  ∀ c ∈ r.head?, c.isDigit = false ∧ c ≠ '.' ∧ c ≠ 'e' ∧ c ≠ 'E'

theorem readDigits_toDigits (n : Nat) (hr : EndsWhole r) :
    readDigits (Nat.toDigits 10 n ++ r) = (Nat.toDigits 10 n, r) := by
  have hdigits : ∀ c ∈ Nat.toDigits 10 n, c.isDigit := fun c hc => isDigit_of_mem_toDigits hc
  rw [readDigits, List.takeWhile_append_of_pos hdigits, List.dropWhile_append_of_pos hdigits]
  cases r with
  | nil => simp
  | cons c r => simp [(hr c rfl).1]

/-- A whole number is read to its end. -/
theorem read_whole (hsign : readSign cs = (sign, Nat.toDigits 10 n ++ r)) (hr : EndsWhole r) :
    read cs = (⟨sign, true, n, 0⟩, r) := by
  have hfraction : readFraction? r = none := by
    cases r with
    | nil => rfl
    | cons c r =>
      unfold readFraction?
      split
      · rename_i heq
        exact absurd (List.cons.inj heq).1 (hr c rfl).2.1
      · rfl
  have hexponent : readExponent? r = none := by
    cases r with
    | nil => rfl
    | cons c r => simp [readExponent?, (hr c rfl).2.2]
  simp [read, hsign, readDigits_toDigits n hr, hfraction, hexponent, digitsValue_toDigits]

theorem starts_whole (hsign : readSign cs = (sign, Nat.toDigits 10 n ++ r)) : starts cs := by
  obtain ⟨c, ds, hds, hc⟩ := toDigits_eq_cons n
  rw [hds] at hsign
  have hdot : c ≠ '.' := by
    rintro rfl
    exact absurd hc (by decide)
  simpa [starts, hsign, hdot] using hc

/-- What a whole number starts with. -/
theorem head_whole (hsign : readSign cs = (sign, Nat.toDigits 10 n ++ r)) :
    ∃ c t, cs = c :: t ∧ Text.isAsciiBlank c = false ∧ c ≠ '/' ∧ c ≠ '"' ∧ c ≠ '\'' ∧ c ≠ '#' := by
  obtain ⟨d, ds, hds, hd⟩ := toDigits_eq_cons n
  unfold readSign at hsign
  split at hsign
  · exact ⟨_, _, rfl, by decide, by decide, by decide, by decide, by decide⟩
  · exact ⟨_, _, rfl, by decide, by decide, by decide, by decide, by decide⟩
  · obtain ⟨-, rfl⟩ := Prod.mk.inj hsign
    rw [hds]
    refine ⟨d, ds ++ r, rfl, ?_⟩
    have hne : ∀ c : Char, c.isDigit = false → d ≠ c := by
      rintro c hc rfl
      simp [hc] at hd
    refine ⟨?_, hne _ (by decide), hne _ (by decide), hne _ (by decide), hne _ (by decide)⟩
    simp [Text.isAsciiBlank, hne ' ' (by decide), hne '\t' (by decide), hne '\n' (by decide),
      hne '\r' (by decide), hne '\x0C' (by decide)]

theorem tokens_of_whole (hsign : readSign cs = (sign, Nat.toDigits 10 n ++ r)) {t : Token}
    {rest : List Char} (h : readNumeric cs = (t, rest)) : tokens cs = t :: tokens rest := by
  have hstarts := starts_whole hsign
  obtain ⟨c, u, rfl, hb, hs, hq, hq', hn⟩ := head_whole hsign
  refine tokens_cons hb hs ?_
  simp [readToken, hq, hq', hn, hstarts, h]

/-- A whole number before a closing parenthesis. -/
theorem tokens_number (hsign : readSign cs = (sign, Nat.toDigits 10 n ++ ')' :: r)) :
    tokens cs = .number ⟨sign, true, n, 0⟩ :: tokens (')' :: r) := by
  refine tokens_of_whole hsign ?_
  have hends : EndsWhole (')' :: r) := by
    rintro c ⟨⟩
    decide
  have hname : startsName (')' :: r) = false := by
    simp [startsName]
    decide
  simp [readNumeric, read_whole hsign hends, hname]

/-- A whole number before a unit. -/
theorem tokens_dimension {unit rest : List Char}
    (hsign : readSign cs = (sign, Nat.toDigits 10 n ++ (unit ++ rest)))
    (hends : EndsWhole (unit ++ rest)) (hstart : startsName (unit ++ rest))
    (hread : readName (unit ++ rest) = (unit, rest)) :
    tokens cs = .dimension ⟨sign, true, n, 0⟩ (String.ofList unit) :: tokens rest := by
  refine tokens_of_whole hsign ?_
  simp [readNumeric, read_whole hsign hends, hstart, hread]

end Numeral

end WebStyle
