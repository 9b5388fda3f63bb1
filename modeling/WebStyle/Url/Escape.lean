import WebStyle.Text.Ascii
/-!
Escapes of bytes in addresses: a percent sign and two hexadecimal digits. Which characters are
escaped depends on the part of the address; those beyond ASCII are escaped everywhere, byte by byte
of their UTF-8 form.
-/
set_option autoImplicit false

namespace WebStyle.Url

/-- Controls and what is not ASCII are escaped in all parts. -/
def escapedAlways (c : Char) : Bool := c.toNat < 0x20 || 0x7E < c.toNat

def escapedInFragment (c : Char) : Bool := escapedAlways c || [' ', '"', '<', '>', '\x60'].contains c

def escapedInQuery (isSpecial : Bool) (c : Char) : Bool :=
  escapedAlways c || [' ', '"', '#', '<', '>'].contains c || (isSpecial && c == '\x27')

def escapedInPath (c : Char) : Bool := escapedInFragment c || ['#', '?', '\x7b', '\x7d'].contains c

def escapedInUser (c : Char) : Bool :=
  escapedInPath c || ['/', ':', ';', '=', '@', '[', '\\', ']', '^', '|'].contains c

/-- The upper-case hexadecimal digit of a number below 16. -/
def hexDigit (n : Nat) : Char := (Nat.digitChar n).toUpper

def escapeByte (b : UInt8) : List Char := ['%', hexDigit (b.toNat / 16), hexDigit (b.toNat % 16)]

def escapeChar (escaped : Char → Bool) (c : Char) : List Char :=
  if escaped c then (String.utf8EncodeChar c).flatMap escapeByte else [c]

def escape (escaped : Char → Bool) (cs : List Char) : String :=
  String.ofList (cs.flatMap (escapeChar escaped))

/-- The bytes that a text stands for; a percent sign without two digits stands for itself. -/
def unescape : List Char → List UInt8
  | [] => []
  | '%' :: a :: b :: r =>
    if Text.isHexDigit a && Text.isHexDigit b then
      (16 * Text.hexValue a + Text.hexValue b).toUInt8 :: unescape r
    else '%'.toNat.toUInt8 :: unescape (a :: b :: r)
  | c :: r => String.utf8EncodeChar c ++ unescape r

end WebStyle.Url
