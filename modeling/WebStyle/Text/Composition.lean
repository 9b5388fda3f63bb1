import WebStyle.Text.Ascii
import WebStyle.Text.Table.Composite
import WebStyle.Text.Table.Mark
/-!
The composed form of a text: the marks after a character stand in the order of their classes, and
where there is a character for both together, it takes their place.
-/
set_option autoImplicit false

namespace WebStyle.Text

/-! ### Marks -/

def markClassIn? (runs : List (Nat × Nat × Nat)) (c : Char) : Option Nat :=
  (runs.find? fun (first, last, _) => first ≤ c.toNat && c.toNat ≤ last).map fun (_, _, k) => k

/-- Whether the character is a mark that takes no room of its own. -/
def isNonspacing (c : Char) : Bool := !isAscii c && (markClassIn? nonspacingMarks c).isSome

def isMark (c : Char) : Bool :=
  isNonspacing c || (!isAscii c && (markClassIn? spacingMarks c).isSome)

/-- By their classes the marks of one character are ordered. Characters that do not move are of class
0, whether they are marks or not. -/
def combiningClass (c : Char) : Nat :=
  if isAscii c then 0
  else ((markClassIn? nonspacingMarks c).or (markClassIn? spacingMarks c)).getD 0

/-- Puts a character before others that are in order; marks of a lower class stay before it. -/
def insertMark (c : Char) : List Char → List Char
  | [] => [c]
  | d :: r =>
    if combiningClass d != 0 && combiningClass d < combiningClass c then d :: insertMark c r
    else c :: d :: r

/-! ### Characters with and without a mark -/

/-- The character and the mark that another character stands for. -/
def parts? (c : Char) : Option (Char × Char) :=
  if isAscii c then none
  else composites.findSome? fun (mark, pairs) =>
    (pairs.find? (·.2 == c.toNat)).map fun (base, _) => (Char.ofNat base, Char.ofNat mark)

/-- Takes up to `n` marks off a character. -/
def takeApart : Nat → Char → List Char
  | 0, c => [c]
  | n + 1, c =>
    match parts? c with
    | some (base, mark) => takeApart n base ++ [mark]
    | none => [c]

/-- The syllable of a first consonant and a vowel, or of such a syllable and a last consonant. -/
def joinHangul? (a b : Char) : Option Char :=
  let m := a.toNat
  let n := b.toNat
  if 0x1100 ≤ m && m ≤ 0x1112 && 0x1161 ≤ n && n ≤ 0x1175 then
    some (Char.ofNat (0xAC00 + 28 * (21 * (m - 0x1100) + (n - 0x1161))))
  else if 0xAC00 ≤ m && m ≤ 0xD7A3 && (m - 0xAC00) % 28 == 0 && 0x11A8 ≤ n && n ≤ 0x11C2 then
    some (Char.ofNat (m + (n - 0x11A7)))
  else none

/-- The character that stands for two. -/
def join? (a b : Char) : Option Char :=
  (joinHangul? a b).or <| (do (← composites.lookup b.toNat).lookup a.toNat).map Char.ofNat

/-- Joins to a character what follows it; `kept`, which is in reverse order, are marks between that did
not join it. One of them hides what is not of a higher class. -/
def joinFrom (base : Char) (kept : List Char) : List Char → List Char
  | [] => base :: kept.reverse
  | c :: r =>
    let isHidden := kept.head?.any fun k => combiningClass c ≤ combiningClass k
    match if isHidden then none else join? base c with
    | some whole => joinFrom whole kept r
    | none =>
      if combiningClass c == 0 then base :: kept.reverse ++ joinFrom c [] r
      else joinFrom base (c :: kept) r

/-- The composed form of a text. No character is made of more than three marks and another one, and
what is ASCII is composed already. -/
def compose (cs : List Char) : List Char :=
  if cs.all isAscii then cs
  else match (cs.flatMap (takeApart 3)).foldr insertMark [] with
    | [] => []
    | c :: r => joinFrom c [] r

end WebStyle.Text
