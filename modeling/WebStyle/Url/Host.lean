import WebStyle.Encoding.Utf8
import WebStyle.Url.Domain
import WebStyle.Url.Escape
/-!
Hosts of addresses: names, and addresses of either version of the protocol. Names are in ASCII form.
-/
set_option autoImplicit false

namespace WebStyle.Url

inductive Host where
  /-- The empty name stands for a host that is not given. -/
  | name (text : String)
  | v4 (address : Nat)
  | v6 (pieces : List Nat)
  deriving DecidableEq, Repr

namespace Host

/-! ### Version 4 -/

/-- A number in the base that its start shows. -/
def readNumber? (cs : List Char) : Option Nat :=
  let digits (base : Nat) (isDigit : Char → Bool) (ds : List Char) : Option Nat :=
    if ds.all isDigit then some (ds.foldl (fun n d => base * n + Text.hexValue d) 0) else none
  match cs with
  | [] => none
  | '0' :: 'x' :: ds | '0' :: 'X' :: ds => digits 16 Text.isHexDigit ds
  | '0' :: d :: ds => digits 8 (fun c => '0' ≤ c && c ≤ '7') (d :: ds)
  | ds => digits 10 Char.isDigit ds

/-- The parts between dots, without an empty last one. -/
def dotted (cs : List Char) : List (List Char) :=
  let parts := Text.splitAtEach (· == '.') cs
  if parts.length > 1 && parts.getLast? == some [] then parts.dropLast else parts

/-- Whether a name has to be read as an address. -/
def endsInNumber (cs : List Char) : Bool :=
  match (dotted cs).getLast? with
  | none => false
  | some part => (!part.isEmpty && part.all Char.isDigit) || (readNumber? part).isSome

/-- Reads an address of up to four numbers, of which the last one fills all bytes that are left. -/
def readV4? (cs : List Char) : Option Nat := do
  let parts := dotted cs
  let numbers ← parts.mapM readNumber?
  let last ← numbers.getLast?
  let others := numbers.dropLast
  let room := Nat.pow 256 (4 - others.length)
  if parts.length ≤ 4 && others.all (· ≤ 255) && last < room then
    some (others.foldl (fun n b => 256 * n + b) 0 * room + last)
  else none

def v4Text (address : Nat) : String :=
  String.intercalate "." ([16777216, 65536, 256, 1].map fun k => toString (address / k % 256))

/-! ### Version 6 -/

/-- The two pieces that four decimal numbers amount to. -/
def readEmbedded? (cs : List Char) : Option (List Nat) :=
  let byte? (ds : List Char) : Option Nat :=
    if !ds.isEmpty && ds.all Char.isDigit && ds.length ≤ 3 && (ds.length == 1 || ds.head? != some '0')
        && Text.digitsValue ds ≤ 255 then
      some (Text.digitsValue ds)
    else none
  match (Text.splitAtEach (· == '.') cs).mapM byte? with
  | some [a, b, c, d] => some [256 * a + b, 256 * c + d]
  | _ => none

/-- Reads pieces between colons; only the end of the address may be in decimal form. -/
def readPieces? (atEnd : Bool) (cs : List Char) : Option (List Nat) :=
  let piece? (ds : List Char) : Option Nat :=
    if !ds.isEmpty && ds.length ≤ 4 && ds.all Text.isHexDigit then
      some (ds.foldl (fun n d => 16 * n + Text.hexValue d) 0)
    else none
  if cs.isEmpty then some []
  else
    let parts := Text.splitAtEach (· == ':') cs
    match parts.getLast? with
    | some last =>
      if atEnd && last.contains '.' then do
        some ((← parts.dropLast.mapM piece?) ++ (← readEmbedded? last))
      else parts.mapM piece?
    | none => some []

/-- Cuts at the first pair of colons. -/
def cutAtColons : List Char → List Char × Option (List Char)
  | ':' :: ':' :: r => ([], some r)
  | [] => ([], none)
  | c :: r => (cutAtColons r).map (c :: ·) id

/-- Reads the eight pieces of an address; a pair of colons stands for all pieces that are missing,
one at least. -/
def readV6? (cs : List Char) : Option (List Nat) :=
  match cutAtColons cs with
  | (all, none) => do
    let pieces ← readPieces? true all
    if pieces.length == 8 then some pieces else none
  | (before, some after) => do
    let first ← readPieces? false before
    let last ← readPieces? true after
    let given := first.length + last.length
    if given ≤ 7 then some (first ++ List.replicate (8 - given) 0 ++ last) else none

/-- Start and length of the longest run of zeros, the first one of equals. -/
def longestZeros (pieces : List Nat) : Nat × Nat :=
  (List.range pieces.length).foldl
    (fun best i =>
      let length := ((pieces.drop i).takeWhile (· == 0)).length
      if best.2 < length then (i, length) else best)
    (0, 0)

def piecesText (pieces : List Nat) : List Char :=
  List.intercalate [':'] (pieces.map Text.hexDigits)

/-- The pieces in hexadecimal form; a pair of colons replaces the longest run of two zeros or
more. -/
def v6Text (pieces : List Nat) : String :=
  let (start, length) := longestZeros pieces
  let inside :=
    if length < 2 then piecesText pieces
    else piecesText (pieces.take start) ++ [':', ':'] ++ piecesText (pieces.drop (start + length))
  String.ofList (['['] ++ inside ++ [']'])

/-! ### Hosts -/

def text : Host → String
  | .name text => text
  | .v4 address => v4Text address
  | .v6 pieces => v6Text pieces

def readBracketed? (cs : List Char) : Option Host :=
  if cs.getLast? == some ']' then (readV6? cs.tail.dropLast).map .v6 else none

/-- Whether no host may hold the character, whatever the scheme. -/
def isForbidden (c : Char) : Bool :=
  ['\x00', '\t', '\n', '\r', ' '].contains c || Domain.isDelimiter c

/-- Reads the host of a special scheme: its escapes are resolved, and it is brought into ASCII form. -/
def ofSpecial? (cs : List Char) : Option Host :=
  if cs.head? == some '[' then readBracketed? cs
  else do
    let name ← Domain.toAscii? (Utf8.decode (unescape cs))
    if name.isEmpty then none
    else if endsInNumber name then (readV4? name).map .v4
    else some (.name (String.ofList name))

/-- Reads the host of another scheme, which stays as it is written. -/
def ofOther? (cs : List Char) : Option Host :=
  if cs.head? == some '[' then readBracketed? cs
  else if cs.any isForbidden then none
  else some (.name (escape escapedAlways cs))

end Host
end WebStyle.Url
