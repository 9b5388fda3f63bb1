/-!
How bytes are read as UTF-8. Every run of bytes is read: what stands for no character becomes the
replacement character.
-/
set_option autoImplicit false

namespace WebStyle

/-- Stands for bytes that mean nothing. -/
def replacementChar : Char := '\uFFFD'

namespace Utf8

/-- A character of which bytes are still to come: how many, between which bounds the next one lies,
and what the bytes so far amount to. -/
structure Partial where
  missing : Nat
  lower : Nat
  upper : Nat
  code : Nat

/-- Reads a first byte: what it stands for, or what it starts. -/
def first (b : Nat) : List Char × Option Partial :=
  if b < 0x80 then ([Char.ofNat b], none)
  else if 0xC2 ≤ b && b ≤ 0xDF then ([], some ⟨1, 0x80, 0xBF, b - 0xC0⟩)
  else if b == 0xE0 then ([], some ⟨2, 0xA0, 0xBF, 0⟩)
  else if b == 0xED then ([], some ⟨2, 0x80, 0x9F, 0xD⟩)
  else if 0xE1 ≤ b && b ≤ 0xEF then ([], some ⟨2, 0x80, 0xBF, b - 0xE0⟩)
  else if b == 0xF0 then ([], some ⟨3, 0x90, 0xBF, 0⟩)
  else if 0xF1 ≤ b && b ≤ 0xF3 then ([], some ⟨3, 0x80, 0xBF, b - 0xF0⟩)
  else if b == 0xF4 then ([], some ⟨3, 0x80, 0x8F, 4⟩)
  else ([replacementChar], none)

/-- Reads on. A byte that does not continue what was started ends it and is read as a first one. -/
def decodeFrom : Option Partial → List UInt8 → List Char
  | none, [] => []
  | some _, [] => [replacementChar]
  | none, b :: r =>
    let (cs, state) := first b.toNat
    cs ++ decodeFrom state r
  | some p, b :: r =>
    let n := b.toNat
    if p.lower ≤ n && n ≤ p.upper then
      let code := 64 * p.code + (n - 0x80)
      if p.missing ≤ 1 then Char.ofNat code :: decodeFrom none r
      else decodeFrom (some ⟨p.missing - 1, 0x80, 0xBF, code⟩) r
    else
      let (cs, state) := first n
      replacementChar :: (cs ++ decodeFrom state r)

def decode (bytes : List UInt8) : List Char := decodeFrom none bytes

end Utf8
end WebStyle
