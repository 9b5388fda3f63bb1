import Mathlib.Data.List.DropRight
import WebStyle.Proofs.Number.Rounding
import WebStyle.Proofs.Number.Whole
/-!
Numbers that are printed and read again. What is read may be another double than what was printed,
but it is printed alike: the printed number is within half a millionth of the first double, so that
the double nearest to it is no farther away.
-/
set_option autoImplicit false

namespace WebStyle

/-! ### Digits -/

namespace Text

theorem digitsValue_append (ds es : List Char) :
    digitsValue (ds ++ es) = digitsValue ds * 10 ^ es.length + digitsValue es := by
  change Nat.ofDigitChars 10 (ds ++ es) 0 =
    Nat.ofDigitChars 10 ds 0 * 10 ^ es.length + Nat.ofDigitChars 10 es 0
  rw [Nat.ofDigitChars_append, Nat.ofDigitChars_eq_ofDigitChars_zero, Nat.mul_comm]

theorem digitsValue_replicate (n : Nat) : digitsValue (List.replicate n '0') = 0 := by
  change Nat.ofDigitChars 10 (List.replicate n '0') 0 = 0
  rw [Nat.ofDigitChars_replicate_zero, Nat.mul_zero]

end Text

namespace Binary64

/-- The decimals that are kept of millionths. -/
theorem decimals_spec {n : Nat} (hn : n < 10 ^ 6) : ∃ kept : List Char,
    (∀ c ∈ kept, c.isDigit) ∧ kept.length ≤ 6 ∧
      Text.digitsValue kept * 10 ^ (6 - kept.length) = n ∧
      decimals n = if kept = [] then [] else '.' :: kept := by
  have hlen : (Nat.toDigits 10 n).length ≤ 6 :=
    (Nat.length_toDigits_le_iff (by decide) (by decide)).2 hn
  generalize hpadded : List.replicate (6 - (Nat.toDigits 10 n).length) '0' ++ Nat.toDigits 10 n =
    padded
  have hlength : padded.length = 6 := by
    rw [← hpadded, List.length_append, List.length_replicate]
    omega
  have hdigits : ∀ c ∈ padded, c.isDigit := by
    intro c hc
    rw [← hpadded] at hc
    rcases List.mem_append.1 hc with hc | hc
    · rw [List.eq_of_mem_replicate hc]
      decide
    · exact isDigit_of_mem_toDigits hc
  have hvalue : Text.digitsValue padded = n := by
    rw [← hpadded, Text.digitsValue_append, Text.digitsValue_replicate, digitsValue_toDigits]
    omega
  have hsplit : padded.rdropWhile (· == '0') ++ padded.rtakeWhile (· == '0') = padded :=
    List.rdropWhile_append_rtakeWhile
  have hzeros : padded.rtakeWhile (· == '0') =
      List.replicate (padded.rtakeWhile (· == '0')).length '0' :=
    List.eq_replicate_iff.2 ⟨rfl, fun c hc => by simpa using List.mem_rtakeWhile_imp hc⟩
  generalize hkept : padded.rdropWhile (· == '0') = kept at *
  generalize padded.rtakeWhile (· == '0') = zeros at *
  have hsum : kept.length + zeros.length = 6 := by
    rw [← List.length_append, hsplit, hlength]
  refine ⟨kept, fun c hc => hdigits c (hsplit ▸ List.mem_append_left _ hc), by omega, ?_, ?_⟩
  · rw [← hsplit, Text.digitsValue_append, hzeros, Text.digitsValue_replicate,
      List.length_replicate] at hvalue
    rw [show 6 - kept.length = zeros.length by omega]
    exact hvalue
  · rw [List.rdropWhile] at hkept
    simp only [decimals, hpadded, hkept]
    cases kept <;> rfl

/-- The millionths of a double, as they are printed. -/
def millionths (m : Nat) (e : Int) : Nat :=
  roundHalfEven ((scaleBy m 1 e).1 * 1000000) (scaleBy m 1 e).2

/-- The text of so many millionths. -/
def fixedText (k : Nat) : List Char :=
  Nat.toDigits 10 (k / 1000000) ++ decimals (k % 1000000)

theorem decimalText_finite (negative : Bool) (m : Nat) (e : Int) :
    decimalText (.finite negative m e) = String.ofList
      (if negative && millionths m e != 0 then '-' :: fixedText (millionths m e)
        else fixedText (millionths m e)) := rfl

/-- The decimals of a double are those nearest to it. -/
theorem isNearestEven_millionths (m : Nat) (e : Int) :
    IsNearestEven (magnitude m e * 10 ^ 6) (millionths m e) := by
  obtain ⟨hd, hscale⟩ := scaleBy_spec m Nat.one_pos e
  have hround := isNearestEven_roundHalfEven ((scaleBy m 1 e).1 * 1000000) hd
  have hvalue : (((scaleBy m 1 e).1 * 1000000 : Nat) : ℚ) / (scaleBy m 1 e).2 =
      magnitude m e * 10 ^ 6 := by
    rw [Nat.cast_mul, mul_div_right_comm, hscale, magnitude]
    push_cast
    ring
  rwa [hvalue] at hround

end Binary64

namespace Numeral

open Binary64

/-- Whether a text cannot go on with a number that stands before it. -/
structure EndsNumber (r : List Char) : Prop where
  digits : ∀ c ∈ r.head?, c.isDigit = false
  fraction : readFraction? r = none
  exponent : readExponent? r = none

theorem readDigits_of_forall {ds r : List Char} (hds : ∀ c ∈ ds, c.isDigit)
    (hr : ∀ c ∈ r.head?, c.isDigit = false) : readDigits (ds ++ r) = (ds, r) := by
  rw [readDigits, List.takeWhile_append_of_pos hds, List.dropWhile_append_of_pos hds]
  cases r with
  | nil => simp
  | cons c r => simp [hr c rfl]

/-- Digits with decimals after them are read to their end. -/
theorem read_digits {cs r whole kept : List Char} {sign : Option Sign}
    (hwhole : ∀ c ∈ whole, c.isDigit) (hkept : ∀ c ∈ kept, c.isDigit)
    (hsign : readSign cs = (sign, whole ++ ((if kept = [] then [] else '.' :: kept) ++ r)))
    (hr : EndsNumber r) :
    read cs =
      (⟨sign, kept.length == 0, Text.digitsValue (whole ++ kept), -(kept.length : Int)⟩, r) := by
  by_cases hnil : kept = []
  · subst hnil
    simp only [↓reduceIte, List.nil_append] at hsign
    simp [read, hsign, readDigits_of_forall hwhole hr.digits, hr.fraction, hr.exponent]
  · have hdot : readFraction? ('.' :: (kept ++ r)) = some (kept, r) := by
      rw [readFraction?, readDigits_of_forall hkept hr.digits]
      cases kept with
      | nil => exact absurd rfl hnil
      | cons c kept => rfl
    have hdigits : ∀ c ∈ ('.' :: (kept ++ r)).head?, c.isDigit = false := by
      rintro c ⟨⟩
      decide
    rw [if_neg hnil, List.cons_append] at hsign
    simp only [read, hsign, readDigits_of_forall hwhole hdigits, hdot, Option.getD_some,
      hr.exponent]
    cases kept with
    | nil => exact absurd rfl hnil
    | cons c kept => simp

/-- A printed number is read to its end, as so many millionths. -/
theorem read_fixedText {cs r : List Char} {sign : Option Sign} {k : Nat}
    (hsign : readSign cs = (sign, fixedText k ++ r)) (hr : EndsNumber r) :
    ∃ digits places : Nat, places ≤ 6 ∧ digits * 10 ^ (6 - places) = k ∧
      read cs = (⟨sign, places == 0, digits, -(places : Int)⟩, r) := by
  obtain ⟨kept, hkept, hplaces, hvalue, htext⟩ :=
    decimals_spec (Nat.mod_lt k (show 0 < 10 ^ 6 by decide))
  refine ⟨Text.digitsValue (Nat.toDigits 10 (k / 10 ^ 6) ++ kept), kept.length, hplaces, ?_, ?_⟩
  · rw [Text.digitsValue_append, digitsValue_toDigits, Nat.add_mul, hvalue, Nat.mul_assoc,
      ← Nat.pow_add, show kept.length + (6 - kept.length) = 6 by omega]
    exact Nat.div_add_mod' k (10 ^ 6)
  · refine read_digits (fun c hc => isDigit_of_mem_toDigits hc) hkept ?_ hr
    rw [hsign, fixedText, ← htext, List.append_assoc]
    rfl

end Numeral

/-! ### Doubles that are read again -/

/-- A value that is no farther away is rounded alike. -/
theorem IsNearestEven.of_le {x y : ℚ} {n : Nat} (h : IsNearestEven x n) (hle : |y - n| ≤ |x - n|) :
    IsNearestEven y n := by
  rcases h with h | ⟨h, heven⟩
  · exact .inl (hle.trans_lt h)
  · rw [h] at hle
    exact hle.lt_or_eq.imp id fun heq => ⟨heq, heven⟩

namespace Binary64

variable {negative : Bool} {m digits places : Nat} {e : Int}

theorem magnitude_le (hm : m < 2 ^ 53) (he : e ≤ 971) :
    magnitude m e ≤ (2 ^ 53 - 1) * 2 ^ (971 : Int) := by
  have hm' : (m : ℚ) ≤ 2 ^ 53 - 1 := by
    have : (m : ℚ) + 1 ≤ 2 ^ 53 := by exact_mod_cast hm
    linarith
  exact mul_le_mul hm' (zpow_le_zpow_right₀ (by norm_num) he) (by positivity) (by norm_num)

/-- The double that is nearest to so many millionths has as many itself, if some double has. -/
theorem millionths_nearest {num den : Nat} (hnum : num ≠ 0) (hden : 0 < den)
    (hm : m < 2 ^ 53) (he : -1074 ≤ e) (he' : e ≤ 971)
    (hvalue : (num : ℚ) / den * 10 ^ 6 = millionths m e) :
    ∃ m' e', nearest negative num den = .finite negative m' e' ∧
      millionths m' e' = millionths m e := by
  obtain ⟨m', e', hnearest, -, -, hmin, hsmall⟩ := nearest_spec hnum hden negative
  have hprinted := isNearestEven_millionths m e
  have hdist := abs_le.1 hprinted.dist_le
  have hlarge := magnitude_le hm he'
  have hsmall' : e' ≤ 971 := by
    have hpower : (1 : ℚ) ≤ 2 ^ (971 : Int) := one_le_zpow₀ (by norm_num) (by norm_num)
    refine hsmall ?_
    generalize (2 : ℚ) ^ (971 : Int) = p at hlarge hpower ⊢
    linarith
  refine ⟨m', e', by rw [hnearest, if_neg (not_lt.2 hsmall')],
    (isNearestEven_millionths m' e').unique (hprinted.of_le ?_)⟩
  have hscale : ∀ y : ℚ, |y * 10 ^ 6 - millionths m e| = |(num : ℚ) / den - y| * 10 ^ 6 := by
    intro y
    rw [← hvalue, ← sub_mul, abs_mul, abs_sub_comm]
    norm_num
  rw [hscale, hscale]
  exact mul_le_mul_of_nonneg_right (hmin m e hm he) (by norm_num)

/-- Millionths that are read are those of some double, if they are not zero. -/
theorem millionths_ofDecimal (hm : m < 2 ^ 53) (he : -1074 ≤ e) (he' : e ≤ 971)
    (hplaces : places ≤ 6) (hdigits : digits * 10 ^ (6 - places) = millionths m e)
    (hne : digits ≠ 0) :
    ∃ m' e', ofDecimal negative digits (-(places : Int)) = .finite negative m' e' ∧
      millionths m' e' = millionths m e := by
  have hvalue : (digits : ℚ) / 10 ^ places * 10 ^ 6 = millionths m e := by
    rw [← hdigits, Nat.cast_mul, Nat.cast_pow, div_mul_eq_mul_div, mul_div_assoc]
    congr 1
    rw [div_eq_iff (by positivity), Nat.cast_ofNat, ← pow_add, Nat.sub_add_cancel hplaces]
  rw [ofDecimal, if_neg hne, if_neg (by omega), if_neg (by omega)]
  split
  · refine millionths_nearest hne (Nat.pow_pos (by decide)) hm he he' ?_
    rw [← hvalue, Int.natAbs_neg, Int.natAbs_natCast, show tenTo places = 10 ^ places from rfl]
    push_cast
    rfl
  · obtain rfl : places = 0 := by omega
    refine millionths_nearest (by simpa [tenTo] using hne) Nat.one_pos hm he he' ?_
    rw [← hvalue]
    simp [tenTo]

end Binary64

namespace Numeral

open Binary64

theorem readSign_fixedText (k : Nat) (r : List Char) :
    readSign (fixedText k ++ r) = (none, fixedText k ++ r) := by
  obtain ⟨c, ds, hds, hc⟩ := toDigits_eq_cons (k / 1000000)
  rw [fixedText, hds]
  have hne : ∀ d : Char, d.isDigit = false → c ≠ d := by
    rintro d hd rfl
    simp [hd] at hc
  simp [readSign, hne '+' (by decide), hne '-' (by decide)]

/-- The text of so many millionths, with a sign unless there are none. -/
def signedText (negative : Bool) (k : Nat) : List Char :=
  if negative && k != 0 then '-' :: fixedText k else fixedText k

theorem millionths_zero (e : Int) : millionths 0 e = 0 := by
  rw [millionths, scaleBy]
  split <;> simp [roundHalfEven]

/-- The text of a number is that of the millionths of a double. -/
theorem text_eq (n : Numeral) : ∃ negative k, n.text = String.ofList (signedText negative k) ∧
    (k = 0 ∨ ∃ m e, m < 2 ^ 53 ∧ -1074 ≤ e ∧ e ≤ 971 ∧ k = millionths m e) := by
  have hdouble := isDouble_ofDecimal n.negative n.digits n.exponent
  rw [text, value]
  generalize ofDecimal n.negative n.digits n.exponent = v at hdouble ⊢
  cases v with
  | notANumber => exact ⟨false, 0, show "0" = _ by decide, .inl rfl⟩
  | infinite _ => exact ⟨false, 0, show "0" = _ by decide, .inl rfl⟩
  | finite negative m e =>
    obtain ⟨hm, he, he'⟩ := hdouble
    exact ⟨negative, millionths m e, decimalText_finite negative m e, .inr ⟨m, e, hm, he, he', rfl⟩⟩

theorem cases_of_mem_text {n : Numeral} {c : Char} (h : c ∈ n.text.toList) :
    c = '-' ∨ c = '.' ∨ c.isDigit := by
  obtain ⟨negative, k, htext, -⟩ := n.text_eq
  obtain ⟨kept, hkept, -, -, hdecimals⟩ := decimals_spec (Nat.mod_lt k (show 0 < 10 ^ 6 by decide))
  have hfixed : c ∈ fixedText k → c = '.' ∨ c.isDigit := by
    intro hmem
    rcases List.mem_append.1 hmem with hmem | hmem
    · exact .inr (isDigit_of_mem_toDigits hmem)
    · rw [show 1000000 = 10 ^ 6 from rfl, hdecimals] at hmem
      split at hmem
      · simp at hmem
      · exact (List.mem_cons.1 hmem).imp id (hkept c)
  rw [htext, String.toList_ofList, signedText] at h
  split at h
  · exact (List.mem_cons.1 h).imp id hfixed
  · exact .inr (hfixed h)

theorem starts_fixedText {cs r : List Char} {sign : Option Sign} {k : Nat}
    (hsign : readSign cs = (sign, fixedText k ++ r)) : starts cs := by
  obtain ⟨c, ds, hds, hc⟩ := toDigits_eq_cons (k / 1000000)
  rw [fixedText, hds] at hsign
  have hdot : c ≠ '.' := by
    rintro rfl
    exact absurd hc (by decide)
  simpa [starts, hsign, hdot] using hc

/-- A printed number is read to its end, as a number that is printed alike. -/
theorem read_text (n : Numeral) {r : List Char} (hr : EndsNumber r) :
    starts (n.text.toList ++ r) ∧
      ∃ n', read (n.text.toList ++ r) = (n', r) ∧ n'.text = n.text := by
  obtain ⟨negative, k, htext, hk⟩ := n.text_eq
  rw [htext, String.toList_ofList]
  have hsign : readSign (signedText negative k ++ r) =
      (if negative && k != 0 then some .minus else none, fixedText k ++ r) := by
    rw [signedText]
    split
    · rfl
    · exact readSign_fixedText k r
  obtain ⟨digits, places, hplaces, hdigits, hread⟩ := read_fixedText hsign hr
  refine ⟨starts_fixedText hsign, _, hread, ?_⟩
  rw [text, value]
  simp only [Numeral.negative]
  by_cases hzero : digits = 0
  · obtain rfl : k = 0 := by rw [← hdigits, hzero, Nat.zero_mul]
    rw [hzero, ofDecimal, if_pos rfl, zero, decimalText_finite, millionths_zero]
    simp [signedText]
  · have hne : k ≠ 0 := by
      rw [← hdigits]
      exact Nat.mul_ne_zero hzero (Nat.pow_pos (by decide)).ne'
    obtain ⟨m, e, hm, he, he', rfl⟩ := hk.resolve_left hne
    obtain ⟨m', e', hvalue, hsame⟩ := millionths_ofDecimal hm he he' hplaces hdigits hzero
    rw [hvalue, decimalText_finite, hsame, signedText]
    cases negative <;> simp [hne]

end Numeral

/-! ### Plain decimals -/

/-- Digits, and a fraction if there is one. -/
def IsMagnitude (cs : List Char) : Prop :=
  ∃ whole kept : List Char, whole ≠ [] ∧ (∀ c ∈ whole, c.isDigit) ∧ (∀ c ∈ kept, c.isDigit) ∧
    cs = whole ++ if kept = [] then [] else '.' :: kept

/-- A number in plain decimal notation, without an exponent. -/
def IsDecimal (text : String) : Prop :=
  ∃ cs, IsMagnitude cs ∧ (text.toList = cs ∨ text.toList = '-' :: cs)

/-- A plain decimal is read as the same number wherever it ends. -/
theorem IsDecimal.exists_read {text : String} (h : IsDecimal text) :
    ∃ n, ∀ r, Numeral.EndsNumber r → Numeral.starts (text.toList ++ r) ∧
      Numeral.read (text.toList ++ r) = (n, r) := by
  obtain ⟨cs, ⟨whole, kept, hne, hwhole, hkept, rfl⟩, htext⟩ := h
  obtain ⟨c, ds, rfl⟩ := List.exists_cons_of_ne_nil hne
  have hc := hwhole c List.mem_cons_self
  have hdigit : ∀ d : Char, d.isDigit = false → c ≠ d := by
    rintro d hd rfl
    simp [hd] at hc
  obtain ⟨sign, hsign⟩ : ∃ sign, ∀ r, Numeral.readSign (text.toList ++ r) =
      (sign, c :: ds ++ ((if kept = [] then [] else '.' :: kept) ++ r)) := by
    rcases htext with htext | htext
    · exact ⟨none, fun r => by
        simp [htext, Numeral.readSign, hdigit '+' (by decide), hdigit '-' (by decide)]⟩
    · exact ⟨some .minus, fun r => by simp [htext, Numeral.readSign]⟩
  refine ⟨_, fun r hr => ⟨?_, Numeral.read_digits hwhole hkept (hsign r) hr⟩⟩
  simpa [Numeral.starts, hsign r, hdigit '.' (by decide)] using hc

theorem isMagnitude_fixedText (k : Nat) : IsMagnitude (Binary64.fixedText k) := by
  obtain ⟨kept, hkept, -, -, htext⟩ :=
    Binary64.decimals_spec (Nat.mod_lt k (show 0 < 10 ^ 6 by decide))
  exact ⟨Nat.toDigits 10 (k / 10 ^ 6), kept, Nat.toDigits_ne_nil,
    fun c hc => isDigit_of_mem_toDigits hc, hkept, by rw [← htext]; rfl⟩

theorem isDecimal_decimalText (x : Binary64) : IsDecimal x.decimalText := by
  have hzero : IsDecimal "0" :=
    ⟨['0'], ⟨['0'], [], by simp, by simp, by simp, rfl⟩, .inl (by decide)⟩
  cases x with
  | notANumber => exact hzero
  | infinite _ => exact hzero
  | finite negative m e =>
    refine ⟨_, isMagnitude_fixedText (Binary64.millionths m e), ?_⟩
    rw [Binary64.decimalText_finite, String.toList_ofList]
    split
    · exact .inr rfl
    · exact .inl rfl

/-- Whatever the number is, its text is a plain decimal. -/
theorem isDecimal_formatNumber (x : Float) : IsDecimal (formatNumber x) :=
  isDecimal_decimalText _

end WebStyle
