import WebStyle.Token.Printer
/-!
Formulas `An+B` for positions among siblings, in the microsyntax of CSS Syntax Level 3, section 6.
Coefficients beyond 32-bit integers are refused.
-/
set_option autoImplicit false

namespace WebStyle

/-- The positions `step · n + offset` for `n = 0, 1, …`; the first position is 1. -/
structure Nth where
  step : Int
  offset : Int
  deriving DecidableEq, Repr

namespace Nth

/-- Whether `position` is one of the formula's. -/
def holdsAt (f : Nth) (position : Int) : Bool :=
  if f.step = 0 then position == f.offset
  else
    let d := position - f.offset
    Int.tmod d f.step == 0 && 0 ≤ Int.tdiv d f.step

/-- Decimal digits, after a minus sign for a negative number. -/
def intChars : Int → List Char
  | .ofNat n => Nat.toDigits 10 n
  | .negSucc n => '-' :: Nat.toDigits 10 (n + 1)

def chars (f : Nth) : List Char :=
  if f.step = 0 then intChars f.offset
  else
    let lead := if f.step = 1 then ['n']
      else if f.step = -1 then ['-', 'n']
      else intChars f.step ++ ['n']
    let tail := if f.offset = 0 then []
      else if 0 < f.offset then '+' :: intChars f.offset
      else intChars f.offset
    lead ++ tail

def text (f : Nth) : String := String.ofList f.chars

/-- The largest coefficient, without its sign. -/
def limit : Nat := 2147483647

/-- The whole number that a numeral stands for, if it is one within the limit. -/
def coefficient? (n : Numeral) : Option Int :=
  n.value.toInt?.filter fun i => i.natAbs ≤ limit

/-- A whole number without a sign, at the end of the formula. -/
def unsignedEnd? : List Token → Option Int
  | [.number n] => if n.integral && !n.isSigned then coefficient? n else none
  | _ => none

/-- The offset after a complete `An`: nothing, a signed whole number, or a sign with a number. -/
def offset? : List Token → Option Int
  | [] => some 0
  | .delim '+' :: r => unsignedEnd? r
  | .delim '-' :: r => (unsignedEnd? r).map (-·)
  | [.number n] => if n.integral && n.isSigned then coefficient? n else none
  | _ => none

/-- Finishes a formula with step `a`, of which `name` is the identifier from the `n` on and `r` what
follows. The name may end in a hyphen, which negates the number after it, or hold a negative
offset. -/
def ofName? (a : Int) (name : List Char) (r : List Token) : Option Nth :=
  match name with
  | ['n'] => (offset? r).map (⟨a, ·⟩)
  | ['n', '-'] => (unsignedEnd? r).map (⟨a, -·⟩)
  | 'n' :: '-' :: ds =>
    if r.isEmpty && ds.all Char.isDigit && Text.digitsValue ds ≤ limit then
      some ⟨a, -(Text.digitsValue ds : Int)⟩
    else none
  | _ => none

/-- Finishes a formula that starts with an identifier. -/
def ofIdent? (name : List Char) (r : List Token) : Option Nth :=
  if name == "odd".toList then if r.isEmpty then some ⟨2, 1⟩ else none
  else if name == "even".toList then if r.isEmpty then some ⟨2, 0⟩ else none
  else match name with
    | '-' :: tail => ofName? (-1) tail r
    | name => ofName? 1 name r

/-- Reads a formula that takes up all of `args`. Between `A` and `B` there may be blanks; between a
leading plus sign and its `n` there may be none. -/
def ofTokens? (args : List Token) : Option Nth :=
  match args with
  | .delim '+' :: .ident name :: r =>
    ofName? 1 (Text.lower name).toList (r.filter (!·.isBlank))
  | _ =>
    match args.filter (!·.isBlank) with
    | .ident name :: r => ofIdent? (Text.lower name).toList r
    | .dimension n unit :: r => do ofName? (← coefficient? n) (Text.lower unit).toList r
    | [.number n] => if n.integral then (coefficient? n).map (⟨0, ·⟩) else none
    | _ => none

end Nth
end WebStyle
