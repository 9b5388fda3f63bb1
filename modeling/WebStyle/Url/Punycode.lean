import WebStyle.Text.Ascii
/-!
The ASCII form of a label: its ASCII characters, and after a hyphen what tells which other characters
stand where. These are taken by their code points and then by their places; each is told by how many
pairs of code point and place lie between it and the one before. Such a number is written with its
lowest digit first, and a digit below a threshold is its last one.
-/
set_option autoImplicit false

namespace WebStyle.Url.Punycode

/-- The digit of a number below 36. -/
def digit (n : Nat) : Char :=
  if n < 26 then Char.ofNat ('a'.toNat + n) else Char.ofNat ('0'.toNat + (n - 26))

def digitValue? (c : Char) : Option Nat :=
  if c.isLower then some (c.toNat - 'a'.toNat)
  else if c.isDigit then some (c.toNat - '0'.toNat + 26)
  else none

/-- The threshold of a digit; `k` is 36 for the first digit and grows by 36 with each. -/
def threshold (bias k : Nat) : Nat := max 1 (min 26 (k - bias))

theorem threshold_pos (bias k : Nat) : 0 < threshold bias k := by unfold threshold; omega

/-- The bias that fits numbers like a given one. -/
def biasOf (n : Nat) : Nat :=
  if 455 < n then 36 + biasOf (n / 35) else 36 * n / (n + 38)
  termination_by n
  decreasing_by exact Nat.div_lt_self (by omega) (by decide)

/-- The bias for the next number, when `count` characters are there. The first number is far larger
than the others will be. -/
def nextBias (isFirst : Bool) (delta count : Nat) : Nat :=
  let n := if isFirst then delta / 700 else delta / 2
  biasOf (n + n / count)

/-! ### Writing -/

/-- The digits of a number. -/
def numeral (bias k n : Nat) : List Char :=
  let t := threshold bias k
  if n < t then [digit n]
  else digit (t + (n - t) % (36 - t)) :: numeral bias (k + 36) ((n - t) / (36 - t))
  termination_by n
  decreasing_by
    have := threshold_pos bias k
    exact Nat.lt_of_le_of_lt (Nat.div_le_self _ _) (by omega)

/-- What was written, the number to be written next, and how many characters are told. -/
structure Writer where
  written : List Char
  delta : Nat
  bias : Nat
  count : Nat

namespace Writer

/-- Passes a character of the label, or writes it when its code point is the one that is due. -/
def pass (basicCount code : Nat) (w : Writer) (c : Char) : Writer :=
  if c.toNat < code then { w with delta := w.delta + 1 }
  else if c.toNat == code then
    { written := w.written ++ numeral w.bias 36 w.delta
      delta := 0
      bias := nextBias (w.count == basicCount) w.delta (w.count + 1)
      count := w.count + 1 }
  else w

/-- Writes all characters of the codes, which are in order; `next` is the lowest code that may come. -/
def writeCodes (cs : List Char) (basicCount next : Nat) (w : Writer) : List Nat → Writer
  | [] => w
  | code :: codes =>
    let w := { w with delta := w.delta + (code - next) * (w.count + 1) }
    let w := cs.foldl (pass basicCount code) w
    writeCodes cs basicCount (code + 1) { w with delta := w.delta + 1 } codes

end Writer

def encode (cs : List Char) : List Char :=
  let basic := cs.filter Text.isAscii
  let codes := (((cs.filter (!Text.isAscii ·)).map Char.toNat).eraseDups).mergeSort
  let start := if basic.isEmpty then [] else basic ++ ['-']
  (Writer.writeCodes cs basic.length 128 ⟨start, 0, 72, basic.length⟩ codes).written

/-! ### Reading -/

/-- The characters so far, the code and the place that come next, and the number that is being read:
its digits so far, what the next one counts, and where it stands. -/
structure Reader where
  text : List Char
  code : Nat
  place : Nat
  bias : Nat
  sum : Nat
  weight : Nat
  k : Nat

namespace Reader

/-- Puts in the character that a number tells. -/
def put? (r : Reader) (delta : Nat) : Option Reader :=
  let count := r.text.length + 1
  let code := r.code + (r.place + delta) / count
  let place := (r.place + delta) % count
  if code < 0xD800 || (0xDFFF < code && code < 0x110000) then
    some
      { text := r.text.take place ++ Char.ofNat code :: r.text.drop place
        code
        place := place + 1
        bias := nextBias (r.place == 0) delta count
        sum := 0
        weight := 1
        k := 36 }
  else none

def read? (r : Reader) (c : Char) : Option Reader := do
  let value ← digitValue? c
  let t := threshold r.bias r.k
  let sum := r.sum + value * r.weight
  if value < t then r.put? sum
  else some { r with sum, weight := r.weight * (36 - t), k := r.k + 36 }

end Reader

/-- The basic characters, and what follows the last hyphen. -/
def splitBasic (cs : List Char) : List Char × List Char :=
  match Text.cutAt (· == '-') cs.reverse with
  | (after, some (c :: before)) => ((c :: before).reverse, after.reverse)
  | _ => ([], cs)

/-- Reads what `encode` writes. -/
def decode? (cs : List Char) : Option (List Char) := do
  let (basic, codes) := splitBasic cs
  let r ← codes.foldlM Reader.read? ⟨basic, 128, 0, 72, 0, 1, 36⟩
  if r.k == 36 && basic.all Text.isAscii then some r.text else none

end WebStyle.Url.Punycode
