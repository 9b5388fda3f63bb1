import WebStyle.Encoding
import WebStyle.Encoding.Table.Big5
import WebStyle.Encoding.Table.Gb18030
import WebStyle.Encoding.Table.HangulCode
import WebStyle.Encoding.Table.JisX0208
import WebStyle.Encoding.Table.JisX0212
import WebStyle.Encoding.Utf8
/-!
How encodings of East Asian texts are read, in which a character takes one byte or several. What
stands for no character is replaced, and a byte of ASCII that ends it is read anew.
-/
set_option autoImplicit false

namespace WebStyle

namespace Multibyte

/-- What a byte stands for, and how many of the bytes after it belong to it. -/
structure Reading where
  chars : List Char
  taken : Nat

namespace Reading

def ofChar (c : Char) (taken : Nat) : Reading := ⟨[c], taken⟩

def ofCode (code taken : Nat) : Reading := ofChar (Char.ofNat code) taken

def invalid (taken : Nat) : Reading := ofChar replacementChar taken

/-- A pair of bytes, which stands for a character or for nothing. -/
def ofPair (b : Nat) : Option Char → Reading
  | some c => ofChar c 1
  | none => invalid (if b < 0x80 then 0 else 1)

end Reading

def isBetween (low high n : Nat) : Bool := low ≤ n && n ≤ high

/-- Reads one byte after another, each with what belongs to it. -/
def readAll (read : Nat → List UInt8 → Reading) : List UInt8 → List Char
  | [] => []
  | a :: r =>
    let reading := read a.toNat r
    reading.chars ++ readAll read (r.drop reading.taken)
  termination_by bytes => bytes.length
  decreasing_by
    rw [List.length_drop, List.length_cons]
    exact Nat.lt_succ_of_le (Nat.sub_le _ _)

/-- Where a second byte stands in its row: the row starts at 64, and a gap follows 126. -/
def column? (gap b : Nat) : Option Nat :=
  if isBetween 0x40 0x7E b then some (b - 0x40)
  else if isBetween (0x7F + gap) 0xFE b then some (b - 0x40 - gap)
  else none

/-- The code of a kana of half the width. -/
def halfwidthKana (n : Nat) : Nat := 0xFF61 + n

/-! ### Chinese -/

namespace Gb18030

/-- The areas for private use: half rows, in the order of their characters. -/
def privateChar? (a column : Nat) : Option Char :=
  if column < 96 then
    if isBetween 0xA1 0xA7 a then some (Char.ofNat (0xE4C6 + 96 * (a - 0xA1) + column)) else none
  else if isBetween 0xAA 0xAF a then some (Char.ofNat (0xE000 + 94 * (a - 0xAA) + (column - 96)))
  else if isBetween 0xF8 0xFE a then some (Char.ofNat (0xE234 + 94 * (a - 0xF8) + (column - 96)))
  else none

def pair? (a b : Nat) : Option Char := do
  let column ← column? 1 b
  (CharacterTable.gb18030.char? (190 * (a - 0x81) + column)).or (privateChar? a column)

/-- The run that a position lies in is the last one that starts before it. -/
def codeIn : List (Nat × Nat) → Nat → Nat
  | [], _ => 0
  | (start, code) :: runs, i =>
    match runs with
    | (next, _) :: _ => if i < next then code + (i - start) else codeIn runs i
    | [] => code + (i - start)

/-- The character of four bytes. The basic plane comes first; one letter in it has changed places
with a private character. -/
def quadruple? (a b c d : Nat) : Option Char :=
  let i := 10 * (126 * (10 * (a - 0x81) + (b - 0x30)) + (c - 0x81)) + (d - 0x30)
  if i == 7457 then some '\uE7C7'
  else if i ≤ 39419 then some (Char.ofNat (codeIn CharacterTable.gb18030Runs i))
  else if isBetween 189000 1237575 i then some (Char.ofNat (0x10000 + (i - 189000)))
  else none

/-- Reads four bytes, of which two are known. -/
def readQuadruple (a b : Nat) : List UInt8 → Reading
  | [] => .invalid 1
  | [c] => .invalid (if isBetween 0x81 0xFE c.toNat then 2 else 0)
  | c :: d :: _ =>
    if isBetween 0x81 0xFE c.toNat && isBetween 0x30 0x39 d.toNat then
      .ofChar ((quadruple? a b c.toNat d.toNat).getD replacementChar) 3
    else .invalid 0

def read (a : Nat) (r : List UInt8) : Reading :=
  if a < 0x80 then .ofCode a 0
  else if a == 0x80 then .ofChar '€' 0
  else if a == 0xFF then .invalid 0
  else match r with
    | [] => .invalid 0
    | b :: r =>
      if isBetween 0x30 0x39 b.toNat then readQuadruple a b.toNat r
      else .ofPair b.toNat (pair? a b.toNat)

end Gb18030

namespace Big5

/-- Letters with two marks, which are two characters each. -/
def markedLetters : List (Nat × List Char) :=
  [(1133, ['\u00CA', '\u0304']), (1135, ['\u00CA', '\u030C']),
   (1164, ['\u00EA', '\u0304']), (1166, ['\u00EA', '\u030C'])]

def readPair (a b : Nat) : Reading :=
  match column? 34 b with
  | none => .ofPair b none
  | some column =>
    let i := 157 * (a - 0x81) + column
    match markedLetters.lookup i with
    | some cs => ⟨cs, 1⟩
    | none => .ofPair b (CharacterTable.big5.char? i)

def read (a : Nat) (r : List UInt8) : Reading :=
  if a < 0x80 then .ofCode a 0
  else if isBetween 0x81 0xFE a then
    match r with
    | [] => .invalid 0
    | b :: _ => readPair a b.toNat
  else .invalid 0

end Big5

/-! ### Korean -/

namespace EucKr

def pair? (a b : Nat) : Option Char :=
  if isBetween 0x41 0xFE b then CharacterTable.hangulCode.char? (190 * (a - 0x81) + (b - 0x41))
  else none

def read (a : Nat) (r : List UInt8) : Reading :=
  if a < 0x80 then .ofCode a 0
  else if isBetween 0x81 0xFE a then
    match r with
    | [] => .invalid 0
    | b :: _ => .ofPair b.toNat (pair? a b.toNat)
  else .invalid 0

end EucKr

/-! ### Japanese -/

namespace ShiftJis

/-- Two rows of characters belong to one first byte. The rows from 95 to 114 are for private use. -/
def pair? (a b : Nat) : Option Char := do
  let column ← column? 1 b
  if 188 ≤ column then none
  else
    let i := 188 * (a - (if a < 0xA0 then 0x81 else 0xC1)) + column
    if isBetween 8836 10715 i then some (Char.ofNat (0xE000 + (i - 8836)))
    else CharacterTable.jisX0208.char? i

def read (a : Nat) (r : List UInt8) : Reading :=
  if a ≤ 0x80 then .ofCode a 0
  else if isBetween 0xA1 0xDF a then .ofCode (halfwidthKana (a - 0xA1)) 0
  else if isBetween 0x81 0x9F a || isBetween 0xE0 0xFC a then
    match r with
    | [] => .invalid 0
    | b :: _ => .ofPair b.toNat (pair? a b.toNat)
  else .invalid 0

end ShiftJis

namespace EucJp

/-- The character of a row and a column of a table, each a byte from 161 to 254. -/
def pairIn? (t : CharacterTable) (a b : Nat) : Option Char :=
  if isBetween 0xA1 0xFE a && isBetween 0xA1 0xFE b then t.char? (94 * (a - 0xA1) + (b - 0xA1))
  else none

/-- Reads a character of the supplementary set, after the byte that announces it. -/
def readSupplement : List UInt8 → Reading
  | [] => .invalid 0
  | b :: r =>
    if isBetween 0xA1 0xFE b.toNat then
      match r with
      | [] => .invalid 1
      | c :: _ =>
        let reading := Reading.ofPair c.toNat (pairIn? .jisX0212 b.toNat c.toNat)
        ⟨reading.chars, reading.taken + 1⟩
    else .ofPair b.toNat none

def read (a : Nat) (r : List UInt8) : Reading :=
  if a < 0x80 then .ofCode a 0
  else if a == 0x8F then readSupplement r
  else if a == 0x8E || isBetween 0xA1 0xFE a then
    match r with
    | [] => .invalid 0
    | b :: _ =>
      if a == 0x8E && isBetween 0xA1 0xDF b.toNat then
        .ofCode (halfwidthKana (b.toNat - 0xA1)) 1
      else .ofPair b.toNat (pairIn? .jisX0208 a b.toNat)
  else .invalid 0

end EucJp

namespace Iso2022Jp

/-- The character set in use, which an escape sequence switches to. -/
inductive CharacterSet where
  | ascii
  /-- ASCII with a yen sign and an overline. -/
  | roman
  | kana
  | kanji

namespace CharacterSet

/-- The set that an escape sequence tells, and what follows. -/
def ofEscape? : List UInt8 → Option (CharacterSet × List UInt8)
  | 0x28 :: 0x42 :: r => some (.ascii, r)
  | 0x28 :: 0x4A :: r => some (.roman, r)
  | 0x28 :: 0x49 :: r => some (.kana, r)
  | 0x24 :: 0x40 :: r => some (.kanji, r)
  | 0x24 :: 0x42 :: r => some (.kanji, r)
  | _ => none

/-- Shifts between sets in other ways than by escape sequences are not known. -/
def isPlain (a : Nat) : Bool := a < 0x80 && a != 0x0E && a != 0x0F

def read (s : CharacterSet) (a : Nat) (r : List UInt8) : Reading :=
  match s with
  | .ascii => if isPlain a then .ofCode a 0 else .invalid 0
  | .roman =>
    if a == 0x5C then .ofChar '¥' 0
    else if a == 0x7E then .ofChar '‾' 0
    else if isPlain a then .ofCode a 0
    else .invalid 0
  | .kana => if isBetween 0x21 0x5F a then .ofCode (halfwidthKana (a - 0x21)) 0 else .invalid 0
  | .kanji =>
    if isBetween 0x21 0x7E a then
      match r with
      | 0x1B :: _ => .invalid 0
      | b :: _ =>
        if isBetween 0x21 0x7E b.toNat then
          .ofChar ((CharacterTable.jisX0208.char? (94 * (a - 0x21) + (b.toNat - 0x21))).getD
            replacementChar) 1
        else .invalid 1
      | [] => .invalid 0
    else .invalid 0

end CharacterSet

theorem ofEscape?_length_le {r rest : List UInt8} {s : CharacterSet}
    (h : CharacterSet.ofEscape? r = some (s, rest)) : rest.length ≤ r.length := by
  unfold CharacterSet.ofEscape? at h
  split at h
  all_goals first
    | (obtain ⟨-, rfl⟩ := Prod.mk.inj (Option.some.inj h)
       exact Nat.le_succ_of_le (Nat.le_succ _))
    | simp at h

/-- Reads with a set in use; `idle` tells that nothing was read since a switch to it. A switch from
an idle set stands for nothing. -/
def decodeIn (s : CharacterSet) (idle : Bool) : List UInt8 → List Char
  | [] => []
  | a :: r =>
    if a == 0x1B then
      match h : CharacterSet.ofEscape? r with
      | some (next, rest) =>
        have := ofEscape?_length_le h
        if idle then replacementChar :: decodeIn next true rest else decodeIn next true rest
      | none => replacementChar :: decodeIn s false r
    else
      let reading := s.read a.toNat r
      reading.chars ++ decodeIn s false (r.drop reading.taken)
  termination_by bytes => bytes.length
  decreasing_by
    all_goals simp only [List.length_cons, List.length_drop]
    all_goals omega

end Iso2022Jp

def decode : Multibyte → List UInt8 → List Char
  | .gbk => readAll Gb18030.read
  | .gb18030 => readAll Gb18030.read
  | .big5 => readAll Big5.read
  | .eucJp => readAll EucJp.read
  | .iso2022Jp => Iso2022Jp.decodeIn .ascii false
  | .shiftJis => readAll ShiftJis.read
  | .eucKr => readAll EucKr.read

end Multibyte
end WebStyle
