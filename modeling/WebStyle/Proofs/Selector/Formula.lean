import WebStyle.Proofs.Number.Whole
import WebStyle.Proofs.Text
import WebStyle.Proofs.Token.Nesting
/-!
Printed formulas for positions among siblings read back as the formulas they were printed from.
-/
set_option autoImplicit false

namespace WebStyle

open Lexer

namespace Nth

variable {f : Nth} {r : List Char}

/-- Whether the coefficients lie within the limit. -/
structure Valid (f : Nth) : Prop where
  step : f.step.natAbs ≤ limit
  offset : f.offset.natAbs ≤ limit

/-! ### Whole numbers -/

/-- The sign that a whole number is printed with. -/
def signOf (i : Int) : Option Sign := if i < 0 then some .minus else none

/-- The numeral that a whole number is printed as. -/
def whole (i : Int) : Numeral := ⟨signOf i, true, i.natAbs, 0⟩

theorem readSign_of_isDigit {c : Char} (h : c.isDigit) :
    Numeral.readSign (c :: r) = (none, c :: r) := by
  unfold Numeral.readSign
  split
  · rename_i heq
    obtain ⟨rfl, -⟩ := List.cons.inj heq
    exact absurd h (by decide)
  · rename_i heq
    obtain ⟨rfl, -⟩ := List.cons.inj heq
    exact absurd h (by decide)
  · rfl

theorem readSign_intChars (i : Int) (r : List Char) :
    Numeral.readSign (intChars i ++ r) = (signOf i, Nat.toDigits 10 i.natAbs ++ r) := by
  cases i with
  | ofNat n =>
    obtain ⟨c, ds, hds, hc⟩ := toDigits_eq_cons n
    have hsign : signOf (.ofNat n) = none := if_neg (by simp)
    simp only [intChars, hds, List.cons_append, readSign_of_isDigit hc, hsign, Int.natAbs]
  | negSucc n =>
    have hsign : signOf (.negSucc n) = some .minus := if_pos (Int.negSucc_lt_zero n)
    simp only [intChars, List.cons_append, Numeral.readSign, hsign, Int.natAbs]

theorem coefficient?_numeral {sign : Option Sign} {n : Nat} (h : n ≤ limit) :
    coefficient? ⟨sign, true, n, 0⟩ = some (Binary64.signed (sign == some .minus) n) := by
  have hvalue := Binary64.toInt?_ofDecimal (n := n) (Nat.lt_of_le_of_lt h (by decide))
    (sign == some .minus)
  have habs : (Binary64.signed (sign == some .minus) n).natAbs ≤ limit := by
    unfold Binary64.signed
    split
    · simpa using h
    · exact h
  simp [coefficient?, Numeral.value, Numeral.negative, hvalue, habs]

theorem coefficient?_whole {i : Int} (h : i.natAbs ≤ limit) : coefficient? (whole i) = some i := by
  rw [whole, coefficient?_numeral h]
  unfold signOf Binary64.signed
  split
  · simp only [beq_self_eq_true, ↓reduceIte, Option.some.injEq]
    omega
  · simp only [reduceCtorEq, ↓reduceIte, Option.some.injEq, beq_iff_eq]
    omega

/-! ### The tokens of a formula -/

/-- The name in a formula: the variable, with a negative offset. -/
def name (f : Nth) : List Char := 'n' :: if f.offset < 0 then intChars f.offset else []

/-- What follows the name in a formula: an offset above zero. -/
def tail (f : Nth) : List Char := if 0 < f.offset then '+' :: intChars f.offset else []

def tailTokens (f : Nth) : List Token :=
  if 0 < f.offset then [.number ⟨some .plus, true, f.offset.natAbs, 0⟩] else []

/-- The token that holds the name of a formula. -/
def lead (f : Nth) : Token :=
  if f.step = 1 then .ident (String.ofList f.name)
  else if f.step = -1 then .ident (String.ofList ('-' :: f.name))
  else .dimension (whole f.step) (String.ofList f.name)

/-- The tokens that a printed formula is read as. -/
def tokens (f : Nth) : List Token :=
  if f.step = 0 then [.number (whole f.offset)] else f.lead :: f.tailTokens

theorem chars_eq (h : f.step ≠ 0) : f.chars =
    (if f.step = 1 then [] else if f.step = -1 then ['-'] else intChars f.step) ++
      (f.name ++ f.tail) := by
  have htail : (if f.offset = 0 then [] else if 0 < f.offset then '+' :: intChars f.offset
      else intChars f.offset) =
        (if f.offset < 0 then intChars f.offset else []) ++ f.tail := by
    unfold tail
    rcases Int.lt_trichotomy f.offset 0 with hneg | hzero | hpos
    · simp [hneg, Int.ne_of_lt hneg, Int.not_lt.2 (Int.le_of_lt hneg)]
    · simp [hzero]
    · simp [hpos, Int.ne_of_gt hpos, Int.not_lt.2 (Int.le_of_lt hpos)]
  simp only [chars, if_neg h, htail, name]
  split
  · simp
  · split
    · simp
    · simp

theorem isNameChar_intChars {i : Int} {c : Char} (h : c ∈ intChars i) : isNameChar c := by
  have hdigits : ∀ n, c ∈ Nat.toDigits 10 n → isNameChar c := fun n hc => by
    simp [isNameChar, isDigit_of_mem_toDigits hc]
  cases i with
  | ofNat n => exact hdigits n h
  | negSucc n =>
    rcases List.mem_cons.1 h with rfl | h
    · decide
    · exact hdigits (n + 1) h

theorem isNameChar_name {c : Char} (h : c ∈ f.name) : isNameChar c := by
  rcases List.mem_cons.1 h with rfl | h
  · decide
  · split at h
    · exact isNameChar_intChars h
    · simp at h

/-! ### Reading the tokens -/

theorem endsIdent_tail (f : Nth) (r : List Char) : EndsIdent (f.tail ++ ')' :: r) := by
  unfold tail
  split
  · rintro c ⟨⟩
    decide
  · rintro c ⟨⟩
    decide

theorem tokens_tail (f : Nth) (r : List Char) :
    Lexer.tokens (f.tail ++ ')' :: r) = f.tailTokens ++ Lexer.tokens (')' :: r) := by
  unfold tail tailTokens
  split
  · rename_i hpos
    have hchars : intChars f.offset = Nat.toDigits 10 f.offset.natAbs := by
      obtain ⟨n, hn⟩ := Int.eq_ofNat_of_zero_le (Int.le_of_lt hpos)
      rw [hn]
      rfl
    rw [hchars]
    exact Numeral.tokens_number rfl
  · rfl

theorem readName_name (f : Nth) (r : List Char) :
    readName (f.name ++ (f.tail ++ ')' :: r)) = (f.name, f.tail ++ ')' :: r) :=
  readName_of_all (fun _ hc => isNameChar_name hc) (f.endsIdent_tail r).endsName.readName

/-- A printed formula is read as its tokens in the arguments of a function. -/
theorem tokens_chars (f : Nth) (r : List Char) :
    Lexer.tokens (f.chars ++ ')' :: r) = f.tokens ++ Lexer.tokens (')' :: r) := by
  by_cases hstep : f.step = 0
  · have hchars : f.chars = intChars f.offset := if_pos hstep
    rw [hchars, tokens, if_pos hstep]
    exact Numeral.tokens_number (readSign_intChars f.offset _)
  · have hread := f.readName_name r
    have hends := f.endsIdent_tail r
    have hstart : startsName (f.name ++ (f.tail ++ ')' :: r)) := startsName_cons (by decide)
    rw [chars_eq hstep, tokens, if_neg hstep, List.append_assoc, List.append_assoc,
      List.cons_append, ← tokens_tail, lead]
    split
    · exact tokens_of_readName hstart hread hends
    · split
      · refine tokens_of_readName (startsName_hyphen (by decide) (by decide)) ?_ hends
        rw [List.singleton_append, readName_cons (by decide), hread]
      · refine Numeral.tokens_dimension (readSign_intChars f.step _) ?_ hstart hread
        rintro c ⟨⟩
        decide

theorem isNormal_chars {c : Char} (h : c ∈ f.chars) : IsNormal c := by
  have hint : ∀ {i : Int}, c ∈ intChars i → IsNormal c := fun hc =>
    isNormal_of_isNameChar (isNameChar_intChars hc)
  by_cases hstep : f.step = 0
  · rw [chars, if_pos hstep] at h
    exact hint h
  · rw [chars_eq hstep] at h
    rcases List.mem_append.1 h with h | h
    · split at h
      · simp at h
      · split at h
        · obtain rfl := List.mem_singleton.1 h
          exact isNormal_of_isNameChar (by decide)
        · exact hint h
    · rcases List.mem_append.1 h with h | h
      · exact isNormal_of_isNameChar (isNameChar_name h)
      · unfold tail at h
        split at h
        · rcases List.mem_cons.1 h with rfl | h
          · exact ⟨by decide, by decide, by decide⟩
          · exact hint h
        · simp at h

/-! ### Formulas from their tokens -/

theorem digits_of_neg {i : Int} (h : i < 0) : intChars i = '-' :: Nat.toDigits 10 i.natAbs := by
  cases i with
  | ofNat n => exact absurd (Int.natCast_nonneg n) (Int.not_le.2 h)
  | negSucc n => rfl

theorem map_toLower_name (f : Nth) : f.name.map Char.toLower = f.name := by
  have hlower : ∀ c ∈ f.name, c.toLower = c := by
    intro c hc
    rcases List.mem_cons.1 hc with rfl | hc
    · rfl
    · split at hc
      · rename_i hneg
        rw [digits_of_neg hneg] at hc
        rcases List.mem_cons.1 hc with rfl | hc
        · rfl
        · exact toLower_of_isDigit (isDigit_of_mem_toDigits hc)
      · simp at hc
  rw [List.map_congr_left hlower, List.map_id']

theorem ofName?_name (h : f.Valid) (a : Int) :
    ofName? a f.name f.tailTokens = some ⟨a, f.offset⟩ := by
  rcases Int.lt_trichotomy f.offset 0 with hneg | hzero | hpos
  · obtain ⟨c, ds, hds, -⟩ := toDigits_eq_cons f.offset.natAbs
    have hname : f.name = 'n' :: '-' :: Nat.toDigits 10 f.offset.natAbs := by
      rw [name, if_pos hneg, digits_of_neg hneg]
    have htail : f.tailTokens = [] := if_neg (by omega)
    have hall : ∀ c ∈ Nat.toDigits 10 f.offset.natAbs, c.isDigit := fun c hc =>
      isDigit_of_mem_toDigits hc
    have hvalue := digitsValue_toDigits f.offset.natAbs
    have hoffset : -(f.offset.natAbs : Int) = f.offset := by omega
    rw [hname, htail]
    rw [hds] at hall hvalue ⊢
    have hall' : (c :: ds).all Char.isDigit := List.all_eq_true.2 hall
    simp only [ofName?, List.isEmpty_nil, hall', hvalue, h.offset, hoffset, Bool.true_and,
      decide_true, ↓reduceIte]
  · have hname : f.name = ['n'] := by simp [name, hzero]
    have htail : f.tailTokens = [] := if_neg (by omega)
    simp [hname, htail, ofName?, offset?, hzero]
  · have hname : f.name = ['n'] := by simp [name, Int.not_lt.2 (Int.le_of_lt hpos)]
    have htail : f.tailTokens = [.number ⟨some .plus, true, f.offset.natAbs, 0⟩] := if_pos hpos
    have hvalue : Binary64.signed (some Sign.plus == some Sign.minus) f.offset.natAbs =
      f.offset := by
      simp only [Binary64.signed]
      rw [if_neg (by decide)]
      omega
    simp only [hname, htail, ofName?, offset?, Numeral.isSigned, Option.isSome_some, Bool.and_self,
      ↓reduceIte, coefficient?_numeral h.offset, hvalue, Option.map_some]

theorem ofIdent?_name {s : List Char} {r : List Token} (a : Int)
    (h : a = 1 ∧ s = f.name ∨ a = -1 ∧ s = '-' :: f.name) :
    ofIdent? s r = ofName? a f.name r := by
  rcases h with ⟨rfl, rfl⟩ | ⟨rfl, rfl⟩ <;> simp [ofIdent?, name]

theorem tailTokens_filter (f : Nth) : f.tailTokens.filter (!·.isBlank) = f.tailTokens := by
  unfold tailTokens
  split <;> rfl

theorem lower_ofList {s : List Char} (h : s.map Char.toLower = s) :
    (Text.lower (String.ofList s)).toList = s := by
  rw [Text.toList_lower, String.toList_ofList, h]

theorem ofTokens?_ident (s : String) (r : List Token) :
    ofTokens? (.ident s :: r) = ofIdent? (Text.lower s).toList (r.filter (!·.isBlank)) := by
  simp [ofTokens?, Token.isBlank]

theorem ofTokens?_dimension (n : Numeral) (unit : String) (r : List Token) :
    ofTokens? (.dimension n unit :: r) = (coefficient? n).bind fun a =>
      ofName? a (Text.lower unit).toList (r.filter (!·.isBlank)) := by
  simp [ofTokens?, Token.isBlank]

theorem ofTokens?_number (n : Numeral) :
    ofTokens? [.number n] = if n.integral then (coefficient? n).map (⟨0, ·⟩) else none := by
  simp [ofTokens?, Token.isBlank]

/-- The tokens of a formula make the formula. -/
theorem ofTokens?_tokens (h : f.Valid) : ofTokens? f.tokens = some f := by
  have hname := lower_ofList f.map_toLower_name
  have hread := ofName?_name h
  rw [tokens]
  split
  · rename_i hstep
    have hf : (⟨0, f.offset⟩ : Nth) = f := by rw [← hstep]
    have hintegral : (whole f.offset).integral = true := rfl
    rw [ofTokens?_number, if_pos hintegral, coefficient?_whole h.offset, Option.map_some, hf]
  · rw [lead]
    split
    · rename_i hone
      rw [ofTokens?_ident, tailTokens_filter, hname, ofIdent?_name 1 (.inl ⟨rfl, rfl⟩),
        hread, ← hone]
    · split
      · rename_i hone
        have hminus : ('-' :: f.name).map Char.toLower = '-' :: f.name :=
          congrArg ('-' :: ·) f.map_toLower_name
        rw [ofTokens?_ident, tailTokens_filter, lower_ofList hminus,
          ofIdent?_name (-1) (.inr ⟨rfl, rfl⟩), hread, ← hone]
      · rw [ofTokens?_dimension, coefficient?_whole h.step, tailTokens_filter, hname,
          Option.bind_some, hread]

theorem isPlain_of_mem_tokens {t : Token} (h : t ∈ f.tokens) : t.isPlain := by
  unfold tokens lead tailTokens at h
  split at h
  · obtain rfl := List.mem_singleton.1 h
    rfl
  · rcases List.mem_cons.1 h with rfl | h
    · split
      · rfl
      · split <;> rfl
    · split at h
      · obtain rfl := List.mem_singleton.1 h
        rfl
      · simp at h

theorem piece_tokens (f : Nth) : Piece f.tokens := by
  refine .of_plain ?_ fun _ => isPlain_of_mem_tokens
  unfold tokens
  split <;> simp

end Nth
end WebStyle
