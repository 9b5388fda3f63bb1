import WebStyle.Encoding.Multibyte
/-!
How bytes are read as text. Every run of bytes is read: what stands for no character becomes the
replacement character.
-/
set_option autoImplicit false

namespace WebStyle

namespace Utf16

/-- The units of two bytes each, and whether a byte is left over. -/
def units (order : ByteOrder) : List UInt8 → List Nat × Bool
  | a :: b :: r =>
    let unit := match order with
      | .little => 256 * b.toNat + a.toNat
      | .big => 256 * a.toNat + b.toNat
    let (us, odd) := units order r
    (unit :: us, odd)
  | [] => ([], false)
  | [_] => ([], true)

def isLead (u : Nat) : Bool := 0xD800 ≤ u && u ≤ 0xDBFF

def isTrail (u : Nat) : Bool := 0xDC00 ≤ u && u ≤ 0xDFFF

/-- The character of a unit that is no lead of a pair. -/
def single (u : Nat) : Char := if isTrail u then replacementChar else Char.ofNat u

/-- Reads units; `lead` is the first half of a pair that was read before. A half without the other
one, and a byte left over, stand for nothing. -/
def decodeUnits (odd : Bool) : Option Nat → List Nat → List Char
  | none, [] => if odd then [replacementChar] else []
  | some _, [] => [replacementChar]
  | none, u :: r =>
    if isLead u then decodeUnits odd (some u) r else single u :: decodeUnits odd none r
  | some lead, u :: r =>
    if isTrail u then
      Char.ofNat (0x10000 + 1024 * (lead - 0xD800) + (u - 0xDC00)) :: decodeUnits odd none r
    else if isLead u then replacementChar :: decodeUnits odd (some u) r
    else replacementChar :: single u :: decodeUnits odd none r

def decode (order : ByteOrder) (bytes : List UInt8) : List Char :=
  let (us, odd) := units order bytes
  decodeUnits odd none us

end Utf16

namespace Encoding

/-- Reads bytes as text. A byte order mark is a character like any other. -/
def decode (e : Encoding) (bytes : List UInt8) : String :=
  String.ofList <| match e with
    | .utf8 => Utf8.decode bytes
    | .utf16 order => Utf16.decode order bytes
    | .page p => p.decode bytes
    | .multibyte m => m.decode bytes
    | .userDefined => bytes.map fun b => Char.ofNat (if b < 0x80 then b.toNat else 0xF700 + b.toNat)
    | .replacement => if bytes.isEmpty then [] else [replacementChar]

/-- The encoding that a byte order mark tells, and what follows the mark. -/
def ofMark? : List UInt8 → Option (Encoding × List UInt8)
  | 0xEF :: 0xBB :: 0xBF :: r => some (.utf8, r)
  | 0xFE :: 0xFF :: r => some (.utf16 .big, r)
  | 0xFF :: 0xFE :: r => some (.utf16 .little, r)
  | _ => none

end Encoding
end WebStyle
