import WebStyle.Url.Direction
import WebStyle.Url.Joining
import WebStyle.Url.Punycode
import WebStyle.Url.Table.DomainMapping
/-!
Names of hosts, made of labels between dots. Characters beyond ASCII are brought into one form of
several that look alike, and a label that holds some has an ASCII form.
-/
set_option autoImplicit false

namespace WebStyle.Url.Domain

/-- What a shifted code point becomes. -/
def shifted? (n : Nat) : Option Nat :=
  (shiftedRuns.find? fun (first, last, step, _) =>
    first ≤ n && n ≤ last && (n - first) % step == 0).map fun (first, _, _, target) =>
      target + (n - first)

/-- What a code point of a row becomes; the rows are in order. -/
def mapped? (n : Nat) : Option (List Char) := do
  let (first, row) ← (mappedRows.takeWhile fun (first, _) => first ≤ n).getLast?
  (Text.splitAtEach (· == ' ') row.toList)[n - first]?

/-- What becomes of a character in a name, unless it is refused. -/
def map? (c : Char) : Option (List Char) :=
  if Text.isAscii c then some [c.toLower]
  else if Text.inRuns droppedRuns c then some []
  else match shifted? c.toNat, mapped? c.toNat with
    | some n, _ => some [Char.ofNat n]
    | none, some cs => some cs
    | none, none => if Text.inRuns refusedRuns c then none else some [c]

/-- The signs that mean something around a host. -/
def isDelimiter (c : Char) : Bool :=
  ['#', '/', ':', '<', '>', '?', '@', '[', '\\', ']', '^', '|'].contains c

/-- Whether no name may hold the ASCII character. -/
def isForbidden (c : Char) : Bool :=
  c.toNat ≤ 0x20 || c.toNat == 0x7F || c == '%' || isDelimiter c

/-- Starts the ASCII form of a label that holds other characters. -/
def asciiLead : List Char := ['x', 'n', '-', '-']

/-- The characters that a label stands for. One in ASCII form stands for something that has no other
form. -/
def readLabel? (label : List Char) : Option (List Char) :=
  match asciiLead.isPrefixOf? label with
  | none => some label
  | some code => do
    let cs ← Punycode.decode? code
    let isNormal := cs.all (fun c => map? c == some [c]) && Text.compose cs == cs
    if isNormal && !cs.all Text.isAscii then some cs else none

/-- Whether a label may be part of a name: no mark stands first, and joiners stand where they
matter. -/
def isLabel (cs : List Char) : Bool := !cs.head?.any Text.isMark && Joining.fit [] cs

/-- The ASCII form of a label. -/
def labelText (cs : List Char) : List Char :=
  if cs.all Text.isAscii then cs else asciiLead ++ Punycode.encode cs

/-- The ASCII form of a name. If something in it is written from right to left, each label has to keep
its direction. -/
def toAscii? (name : List Char) : Option (List Char) := do
  let cs := Text.compose ((← name.mapM map?).flatten)
  if cs.any isForbidden then none
  let labels ← (Text.splitAtEach (· == '.') cs).mapM readLabel?
  let isMixed := labels.any (·.any Direction.isFromRight)
  if labels.all isLabel && (!isMixed || labels.all Direction.isUniform) then
    some (List.intercalate ['.'] (labels.map labelText))
  else none

end WebStyle.Url.Domain
