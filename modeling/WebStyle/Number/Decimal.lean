import WebStyle.Number.Binary64
import WebStyle.Text.Ascii
/-!
Decimal numbers as text. A `Numeral` is a number as it was written; its value is the nearest double.
Doubles are written with at most six decimals, and numerals in style sheets are those of CSS Syntax
Level 3: a sign, digits, a fraction and an exponent, of which the digits may be missing before the
point.
-/
set_option autoImplicit false

namespace WebStyle

namespace Binary64

/-- The decimals of `n` millionths, without trailing zeros; nothing for a whole number. -/
def decimals (n : Nat) : List Char :=
  let ds := Nat.toDigits 10 n
  let padded := List.replicate (6 - ds.length) '0' ++ ds
  match (padded.reverse.dropWhile (· == '0')).reverse with
  | [] => []
  | kept => '.' :: kept

/-- The value rounded to six decimals, a half going to the even neighbour. Trailing zeros and the
sign of zero are dropped. A value that is not finite reads as zero. -/
def decimalText : Binary64 → String
  | .finite negative m e =>
    let (n, d) := scaleBy m 1 e
    let millionths := roundHalfEven (n * 1000000) d
    let digits := Nat.toDigits 10 (millionths / 1000000) ++ decimals (millionths % 1000000)
    String.ofList (if negative && millionths != 0 then '-' :: digits else digits)
  | _ => "0"

end Binary64

/-- The canonical text of a computed number. -/
def formatNumber (x : Float) : String := (Binary64.ofFloat x).decimalText

inductive Sign where
  | plus
  | minus
  deriving DecidableEq, Repr

/-- A number as written: `digits · 10 ^ exponent`, with its sign if it has one. It is `integral` if
neither fraction nor exponent was written. -/
structure Numeral where
  sign : Option Sign
  integral : Bool
  digits : Nat
  exponent : Int
  deriving DecidableEq, Repr

namespace Numeral

def negative (n : Numeral) : Bool := n.sign == some .minus

def isSigned (n : Numeral) : Bool := n.sign.isSome

/-- The double nearest to the number. -/
def value (n : Numeral) : Binary64 := .ofDecimal n.negative n.digits n.exponent

def toFloat (n : Numeral) : Float := n.value.toFloat

/-- The canonical text of the number's value. -/
def text (n : Numeral) : String := n.value.decimalText

/-- An optional sign, and what follows it. -/
def readSign : List Char → Option Sign × List Char
  | '+' :: r => (some .plus, r)
  | '-' :: r => (some .minus, r)
  | r => (none, r)

/-- A run of decimal digits, and what follows it. -/
def readDigits (cs : List Char) : List Char × List Char :=
  (cs.takeWhile Char.isDigit, cs.dropWhile Char.isDigit)

/-- An exponent mark with digits after it: its value, and what follows. -/
def readExponent? : List Char → Option (Int × List Char)
  | mark :: r =>
    if mark == 'e' || mark == 'E' then
      let (sign, r) := readSign r
      match readDigits r with
      | ([], _) => none
      | (ds, rest) => some (Binary64.signed (sign == some .minus) (Text.digitsValue ds), rest)
    else none
  | [] => none

/-- A point with digits after it: the digits, and what follows. -/
def readFraction? : List Char → Option (List Char × List Char)
  | '.' :: r =>
    match readDigits r with
    | ([], _) => none
    | (ds, rest) => some (ds, rest)
  | _ => none

/-- Reads the longest numeral at the start of the text, and returns what follows it. The text is
known to start with one. -/
def read (cs : List Char) : Numeral × List Char :=
  let (sign, cs) := readSign cs
  let (whole, cs) := readDigits cs
  let (fraction, cs) := (readFraction? cs).getD ([], cs)
  let (exponent, rest) := match readExponent? cs with
    | some (e, rest) => (some e, rest)
    | none => (none, cs)
  ({ sign
     integral := fraction.isEmpty && exponent.isNone
     digits := Text.digitsValue (whole ++ fraction)
     exponent := exponent.getD 0 - fraction.length }, rest)

/-- Whether a numeral starts the text. -/
def starts (cs : List Char) : Bool :=
  match (readSign cs).2 with
  | '.' :: d :: _ => d.isDigit
  | d :: _ => d.isDigit
  | [] => false

theorem readDigits_length_le (cs : List Char) : (readDigits cs).2.length ≤ cs.length := by
  simpa [readDigits] using (List.dropWhile_sublist Char.isDigit).length_le

theorem readSign_length_le (cs : List Char) : (readSign cs).2.length ≤ cs.length := by
  unfold readSign; split <;> simp

theorem readFraction?_length_lt {cs : List Char} {p : List Char × List Char}
    (h : readFraction? cs = some p) : p.2.length < cs.length := by
  unfold readFraction? at h
  split at h
  · rename_i r
    have := readDigits_length_le r
    split at h
    · simp at h
    · rename_i ds rest heq
      simp only [Option.some.injEq] at h
      subst h
      rw [heq] at this
      simpa using Nat.lt_succ_of_le this
  · simp at h

theorem readExponent?_length_lt {cs : List Char} {p : Int × List Char}
    (h : readExponent? cs = some p) : p.2.length < cs.length := by
  unfold readExponent? at h
  split at h
  · rename_i mark r
    split at h
    · have h1 := readSign_length_le r
      have h2 := readDigits_length_le (readSign r).2
      simp only at h
      split at h
      · simp at h
      · rename_i ds rest _ heq
        obtain rfl := Option.some.inj h
        rw [heq] at h2
        exact Nat.lt_succ_of_le (Nat.le_trans h2 h1)
    · simp at h
  · simp at h

theorem read_length_lt {cs : List Char} (h : starts cs) :
    (read cs).2.length < cs.length := by
  have hs := readSign_length_le cs
  have hd := readDigits_length_le (readSign cs).2
  have key : ((readFraction? (readDigits (readSign cs).2).2).getD
      ([], (readDigits (readSign cs).2).2)).2.length < cs.length := by
    cases hf : readFraction? (readDigits (readSign cs).2).2 with
    | some p => have := readFraction?_length_lt hf; simp only [Option.getD_some]; omega
    | none =>
      simp only [Option.getD_none]
      unfold starts at h
      split at h
      · rename_i d r heq
        have : '.'.isDigit = false := by decide
        simp [heq, readDigits, List.dropWhile, List.takeWhile, this, readFraction?, h] at hf
      · rename_i d r _ heq
        have hr : (readDigits (d :: r)).2.length ≤ r.length := by
          simpa [readDigits, h] using (List.dropWhile_sublist Char.isDigit).length_le
        rw [heq] at hs hd ⊢
        simp at hs
        omega
      · simp at h
  simp only [read]
  split
  · rename_i he
    exact Nat.lt_trans (readExponent?_length_lt he) key
  · exact key

end Numeral

/-- Reads a whole text as a number: a decimal number, in which the digits on one side of the point
may be missing, or `inf`, `infinity` or `nan` in any case, all with an optional sign. -/
def Binary64.ofString? (s : String) : Option Binary64 :=
  let (sign, cs) := Numeral.readSign s.toList
  let negative := sign == some .minus
  let (whole, rest) := Numeral.readDigits cs
  let (fraction, rest) := match rest with
    | '.' :: r => Numeral.readDigits r
    | r => ([], r)
  let digits := whole ++ fraction
  if digits.isEmpty then
    let word := Text.lower (String.ofList cs)
    if word == "inf" || word == "infinity" then some (.infinite negative)
    else if word == "nan" then some .notANumber
    else none
  else
    let exponent := if rest.isEmpty then some (0, []) else Numeral.readExponent? rest
    match exponent with
    | some (e, []) => some (.ofDecimal negative (Text.digitsValue digits) (e - fraction.length))
    | _ => none

end WebStyle
