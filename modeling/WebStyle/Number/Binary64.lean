/-!
Double-precision numbers taken apart: the double nearest to a quotient, the parts of a double, and
rounding to whole numbers. All arithmetic here is exact, on natural numbers.
-/
set_option autoImplicit false

namespace WebStyle

/-- A double; a finite one is `mantissa · 2 ^ exponent`, up to its sign. -/
inductive Binary64 where
  | notANumber
  | infinite (negative : Bool)
  | finite (negative : Bool) (mantissa : Nat) (exponent : Int)
  deriving DecidableEq, Repr

/-- A power of two. -/
def twoTo (n : Nat) : Nat := Nat.pow 2 n

/-- A power of ten. -/
def tenTo (n : Nat) : Nat := Nat.pow 10 n

/-- Numerator and denominator of `num / den · 2 ^ e`. -/
def scaleBy (num den : Nat) (e : Int) : Nat × Nat :=
  if e < 0 then (num, den * twoTo e.natAbs) else (num * twoTo e.natAbs, den)

/-- The whole number nearest to `num / den`, a half going to the even neighbour. -/
def roundHalfEven (num den : Nat) : Nat :=
  let q := num / den
  let r := num % den
  if 2 * r < den then q else if den < 2 * r then q + 1 else q + q % 2

/-- The whole number nearest to `num / den`, a half going up. -/
def roundHalfUp (num den : Nat) : Nat := (2 * num + den) / (2 * den)

namespace Binary64

def zero (negative : Bool) : Binary64 := .finite negative 0 (-1074)

/-- The exponent of the last place of the doubles around `num / den`. -/
def lastPlace (num den : Nat) : Int :=
  let e : Int := (num.log2 : Int) - (den.log2 : Int) - 53
  let (n, d) := scaleBy num den (-e)
  max (if twoTo 53 ≤ n / d then e + 1 else e) (-1074)

/-- The double nearest to `num / den`; of two nearest ones that with the even mantissa. -/
def nearest (negative : Bool) (num den : Nat) : Binary64 :=
  if num = 0 then zero negative
  else
    let e := lastPlace num den
    let (n, d) := scaleBy num den (-e)
    let m := roundHalfEven n d
    let (m, e) := if m = twoTo 53 then (twoTo 52, e + 1) else (m, e)
    if 971 < e then .infinite negative else .finite negative m e

/-- The double nearest to `digits · 10 ^ exponent`. -/
def ofDecimal (negative : Bool) (digits : Nat) (exponent : Int) : Binary64 :=
  if digits = 0 then zero negative
  else if 310 < exponent then .infinite negative
  else if exponent < -(400 + (digits.log2 : Int)) then zero negative
  else if exponent < 0 then nearest negative digits (tenTo exponent.natAbs)
  else nearest negative (digits * tenTo exponent.natAbs) 1

/-- Bits 0 to 51 hold the fraction, 52 to 62 the exponent and 63 the sign. -/
def toBits : Binary64 → UInt64
  | .notANumber => 0x7FF8000000000000
  | .infinite negative => signBit negative ||| 0x7FF0000000000000
  | .finite negative m e =>
    signBit negative |||
      UInt64.ofNat (if m < twoTo 52 then m else (e + 1075).toNat * twoTo 52 + (m - twoTo 52))
where
  signBit (negative : Bool) : UInt64 := if negative then 0x8000000000000000 else 0

def ofBits (bits : UInt64) : Binary64 :=
  let n := bits.toNat
  let negative := decide (twoTo 63 ≤ n)
  let field : Nat := n / twoTo 52 % twoTo 11
  let fraction := n % twoTo 52
  if field = 0x7FF then if fraction = 0 then .infinite negative else .notANumber
  else if field = 0 then .finite negative fraction (-1074)
  else .finite negative (twoTo 52 + fraction) ((field : Int) - 1075)

def ofFloat (x : Float) : Binary64 := ofBits x.toBits

def toFloat (x : Binary64) : Float := Float.ofBits x.toBits

/-- Gives a magnitude its sign back. -/
def signed (negative : Bool) (n : Nat) : Int := if negative then -(n : Int) else n

/-- The value, when it is a whole number. -/
def toInt? : Binary64 → Option Int
  | .finite negative m e =>
    let (n, d) := scaleBy m 1 e
    if n % d = 0 then some (signed negative (n / d)) else none
  | _ => none

/-- The whole number nearest to the value, a half going away from zero. -/
def round? : Binary64 → Option Int
  | .finite negative m e =>
    let (n, d) := scaleBy m 1 e
    some (signed negative (roundHalfUp n d))
  | _ => none

/-- The remainder on division by `k`, at least zero. It is exact for a value that is not negative;
for a negative one the difference from `k` is rounded, and may round to `k` itself. -/
def modulo (k : Nat) : Binary64 → Binary64
  | .finite negative m e =>
    let (n, d) := scaleBy m 1 e
    let r := n % (k * d)
    if r = 0 then zero negative
    else nearest false (if negative then k * d - r else r) d
  | _ => .notANumber

end Binary64
end WebStyle
