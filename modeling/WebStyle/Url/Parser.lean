import WebStyle.Url
/-!
How addresses are read, absolute ones and ones that are relative to a base.
-/
set_option autoImplicit false

namespace WebStyle.Url

/-- What is read of an address: its scheme has been taken off, and query and fragment stand apart. -/
structure Written where
  body : List Char
  query : Option (List Char)
  fragment : Option (List Char)

/-- Drops controls and spaces at both ends, and tabs and line ends everywhere, and cuts off query and
fragment. -/
def Written.ofString (text : String) : Written :=
  let isBreak (c : Char) : Bool := c == '\t' || c == '\n' || c == '\r'
  let cs := (trimBy (fun c => c.toNat ≤ 0x20) text.toList).filter (!isBreak ·)
  let (cs, fragment) := Text.cutAt (· == '#') cs
  let (body, query) := Text.cutAt (· == '?') cs
  ⟨body, query, fragment⟩

def isSchemeChar (c : Char) : Bool := c.isAlphanum || c == '+' || c == '-' || c == '.'

/-- The scheme that a text starts with, in lower case, and what follows its colon. -/
def splitScheme? (cs : List Char) : Option (String × List Char) :=
  match cs.head?, cs.dropWhile isSchemeChar with
  | some c, ':' :: rest =>
    if c.isAlpha then some (Text.lower (String.ofList (cs.takeWhile isSchemeChar)), rest) else none
  | _, _ => none

def isSlash (c : Char) : Bool := c == '/' || c == '\\'

/-- Whether the character separates the parts of a path. -/
def separates (isSpecial : Bool) (c : Char) : Bool := c == '/' || (isSpecial && c == '\\')

/-! ### Paths -/

/-- A segment with escaped dots resolved, to tell the special ones. -/
def resolveDots : List Char → List Char
  | '%' :: '2' :: 'e' :: r | '%' :: '2' :: 'E' :: r => '.' :: resolveDots r
  | c :: r => c :: resolveDots r
  | [] => []

/-- Whether a segment names a drive: a letter, and a colon or a bar. -/
def isDrive : List Char → Bool
  | [c, d] => c.isAlpha && (d == ':' || d == '|')
  | _ => false

/-- Whether a segment names a drive in its normal form, with a colon. -/
def isNormalDrive (segment : String) : Bool :=
  isDrive segment.toList && segment.toList.getLast? == some ':'

/-- Whether a text starts with a segment that names a drive. -/
def startsWithDrive (cs : List Char) : Bool := isDrive (cs.takeWhile (!isSlash ·))

/-- A path that is being read: the segments that are finished, and what was read after the last
slash. -/
structure OpenPath where
  segments : List String
  last : String

namespace OpenPath

/-- The path after its first slash. -/
def root : OpenPath := ⟨[], ""⟩

def toList (p : OpenPath) : List String := p.segments ++ [p.last]

/-- Finishes a segment of which something was read. -/
def close (p : OpenPath) : OpenPath := if p.last == "" then p else ⟨p.toList, ""⟩

/-- Drops the last segment that is finished. In all schemes, one that starts like a drive stays. -/
def up (p : OpenPath) : OpenPath :=
  if p.last == "" && !p.segments.getLast?.any (fun s => startsWithDrive s.toList) then
    ⟨p.segments.dropLast, ""⟩
  else p

/-- Reads a piece as it stands; a drive right at the root of a file path gets its normal form. -/
def push (isFile : Bool) (p : OpenPath) (piece : List Char) : OpenPath :=
  let isRootDrive := isFile && p.segments.isEmpty && p.last == "" && isDrive piece
  let text := if isRootDrive then String.ofList (piece.take 1 ++ [':']) else escape escapedInPath piece
  { p with last := p.last ++ text }

/-- Reads the pieces between slashes: a single dot stays, a double dot goes up. -/
def read (isFile : Bool) (p : OpenPath) : List (List Char) → OpenPath
  | [] => p
  | piece :: rest =>
    match resolveDots piece with
    | ['.'] => p.close.read isFile rest
    | ['.', '.'] => (if rest.isEmpty then p.up else p.up.close).read isFile rest
    | _ =>
      let p := p.push isFile piece
      (if rest.isEmpty then p else ⟨p.toList, ""⟩).read isFile rest

/-- The path of a base up to its last slash. A file's drive without a slash after it stays; alone, it
gets one. -/
def ofBase (isFile : Bool) (segments : List String) : OpenPath :=
  match segments.getLast? with
  | none => root
  | some s =>
    if isFile && isNormalDrive s then
      if segments.length == 1 then ⟨[s], ""⟩ else ⟨segments.dropLast, s⟩
    else ⟨segments.dropLast, ""⟩

end OpenPath

/-- Reads the segments that continue a path. -/
def readSegments (scheme : String) (start : OpenPath) (cs : List Char) : List String :=
  (start.read (scheme == "file") (Text.splitAtEach (separates (isSpecialScheme scheme)) cs)).toList

/-- The path of a file starts with no empty segment. -/
def filePath (segments : List String) : Path :=
  let segments := segments.dropWhile (· == "")
  .segments (if segments.isEmpty then [""] else segments)

/-- Reads a path that continues another one. -/
def readPath (scheme : String) (start : OpenPath) (cs : List Char) : Path :=
  let segments := readSegments scheme start cs
  if scheme == "file" then filePath segments else .segments segments

/-- Reads what follows a host. Only a special scheme has a path where none is written. -/
def readPathAfterHost (scheme : String) (cs : List Char) : Path :=
  match cs with
  | [] => if isSpecialScheme scheme then .segments [""] else .segments []
  | c :: r => readPath scheme .root (if separates (isSpecialScheme scheme) c then r else cs)

/-! ### Hosts with what belongs to them -/

/-- Splits at the last character that satisfies `p`, if there is one. -/
def splitAtLast? (p : Char → Bool) (cs : List Char) : Option (List Char × List Char) :=
  match Text.cutAt p cs.reverse with
  | (_, none) => none
  | (after, some before) => some (before.reverse, after.reverse)

/-- Splits off the port: what follows the first colon outside brackets. -/
def splitPort (inside : Bool) : List Char → List Char × Option (List Char)
  | [] => ([], none)
  | c :: r =>
    if c == ':' && !inside then ([], some r)
    else (splitPort (c == '[' || (inside && c != ']')) r).map (c :: ·) id

/-- Reads a port, and returns what follows it. A backslash ends it, and the scheme's own counts as
none. -/
def readPort? (scheme : String) (cs : List Char) : Option (Option Nat × List Char) :=
  let ds := cs.takeWhile (· != '\\')
  let port := Text.digitsValue ds
  if !ds.all Char.isDigit || 65535 < port then none
  else
    let isOwn := ds.isEmpty || schemePort? scheme == some port
    some (if isOwn then none else some port, cs.dropWhile (· != '\\'))

/-- Reads user, host and port, and the path after them; `more` tells that a query or a fragment
follows. Only a scheme that is not special may leave the host out, and then there is no user and no
port; an empty user may only stand at the very end. -/
def readAuthority? (scheme : String) (more : Bool) (cs : List Char) : Option Url := do
  let isSpecial := isSpecialScheme scheme
  let authority := cs.takeWhile (!separates isSpecial ·)
  let rest := cs.dropWhile (!separates isSpecial ·)
  let (user, place) := match splitAtLast? (· == '@') authority with
    | some (user, place) => (some user, place)
    | none => (none, authority)
  let (name, password) := Text.cutAt (· == ':') (user.getD [])
  let password := password.getD []
  let hasUser := !name.isEmpty || !password.isEmpty || (user == some [] && (more || !rest.isEmpty))
  let (host, port) := splitPort false place
  if host.isEmpty && (isSpecial || hasUser || port.isSome) then none
  let host ← if isSpecial then Host.ofSpecial? host else Host.ofOther? host
  let (port, afterPort) ← readPort? scheme (port.getD [])
  some
    { scheme
      user := escape escapedInUser name
      password := escape escapedInUser password
      host := some host
      port
      path := readPathAfterHost scheme (afterPort ++ rest)
      query := none
      fragment := none }

/-- An address without user and port, query and fragment. -/
def plain (scheme : String) (host : Option Host) (path : Path) : Url :=
  ⟨scheme, "", "", host, none, path, none, none⟩

/-- Reads a path of a scheme without a hierarchy, or one without a host. -/
def readOther? (scheme : String) (more : Bool) (cs : List Char) : Option Url :=
  match cs with
  | '/' :: '/' :: r => readAuthority? scheme more r
  | '/' :: r => some (plain scheme none (readPath scheme .root r))
  | r => some (plain scheme none (.whole (escape escapedAlways r)))

/-- A file on this host. -/
def localFile (path : Path) : Url := plain "file" (some (.name "")) path

/-- Reads the host of a file and its path. A drive is no host, and has none; after a host that is left
out, the slash before the path belongs to the path. -/
def readFileHost? (cs : List Char) : Option Url :=
  let name := cs.takeWhile (!isSlash ·)
  let rest := cs.dropWhile (!isSlash ·)
  if isDrive name then some (localFile (readPath "file" .root cs))
  else if name.isEmpty then some (localFile (readPath "file" .root rest))
  else do
    let host ← Host.ofSpecial? name
    if host == .name "localhost" then some (localFile (readPath "file" .root rest))
    else
      let segments := readSegments "file" .root rest.tail
      if segments.head?.any isNormalDrive then some (localFile (filePath segments))
      else some (plain "file" (some host) (filePath segments))

/-- The drive that the path of a file is on. -/
def drive? (u : Url) : Option String := ((u.segments?).bind List.head?).filter isNormalDrive

/-- Reads what is left of a reference to a file, with another file as the base. -/
def readFile? (base : Option Url) (cs : List Char) : Option Url :=
  match cs with
  | c :: r =>
    if isSlash c then
      match r with
      | d :: rest => if isSlash d then readFileHost? rest else some (fromRoot r)
      | [] => some (fromRoot [])
    else match base with
      | some b =>
        if startsWithDrive cs then some (localFile (readPath "file" .root cs))
        else some (plain "file" b.host
          (readPath "file" (.ofBase true ((b.segments?).getD [])) cs))
      | none => some (localFile (readPath "file" .root cs))
  | [] => some (localFile (.segments [""]))
where
  /-- Stays on the base's host and drive, unless another drive is named. -/
  fromRoot (r : List Char) : Url :=
    match base with
    | some b =>
      if startsWithDrive r then localFile (readPath "file" .root r)
      else match b.drive? with
        | some drive => localFile (readPath "file" ⟨[drive], ""⟩ r)
        | none => plain "file" b.host (readPath "file" .root r)
    | none => localFile (readPath "file" .root r)

/-- Reads a reference that starts with no scheme, or with that of a special base; the base is no
file. -/
def readRelative? (base : Url) (segments : List String) (more : Bool) (cs : List Char) :
    Option Url :=
  match cs with
  | c :: r =>
    if isSlash c then
      match cs, r with
      | '/' :: '/' :: rest, _ => readAuthority? base.scheme more rest
      | _, d :: _ =>
        if isSlash d then readAuthority? base.scheme more (cs.dropWhile isSlash)
        else some { base with path := readPath base.scheme .root r }
      | _, [] => some { base with path := readPath base.scheme .root r }
    else some { base with path := readPath base.scheme (.ofBase false segments) cs }
  | [] => some base

/-- Reads what is left of an address after its scheme. -/
def readAbsolute? (base : Option Url) (scheme : String) (more : Bool) (cs : List Char) :
    Option Url :=
  if scheme == "file" then readFile? (base.filter (·.scheme == scheme)) cs
  else if isSpecialScheme scheme then
    match base with
    | some b =>
      match b.segments? with
      | some segments =>
        if b.scheme == scheme && (cs.takeWhile isSlash).length < 2 then
          readRelative? b segments more cs
        else readAuthority? scheme more (cs.dropWhile isSlash)
      | none => readAuthority? scheme more (cs.dropWhile isSlash)
    | none => readAuthority? scheme more (cs.dropWhile isSlash)
  else readOther? scheme more cs

/-- Puts the query and the fragment in their place. -/
def withWritten (u : Url) (query fragment : Option (List Char)) : Url :=
  { u with
    query := query.map (escape (escapedInQuery u.isSpecial))
    fragment := fragment.map (escape escapedInFragment) }

/-- Whether a reference is empty but for query and fragment, so that the base's path stays. -/
def keepsPath (base : Option Url) (scheme : Option String) (body : List Char) : Bool :=
  body.isEmpty && base.any fun b =>
    b.segments?.isSome && scheme.all fun s => s == b.scheme && isSpecialScheme s

/-- Reads an address, absolute or relative to a base. -/
def resolve? (base : Option Url) (text : String) : Option Url :=
  let w := Written.ofString text
  let (scheme, body) := match splitScheme? w.body with
    | some (scheme, rest) => (some scheme, rest)
    | none => (none, w.body)
  let more := w.query.isSome || w.fragment.isSome
  match base with
  | some b =>
    if scheme.isNone && body.isEmpty && w.query.isNone && w.fragment.isSome then
      some { b with fragment := w.fragment.map (escape escapedInFragment) }
    else if keepsPath base scheme body then
      let u := b.withWritten w.query w.fragment
      some (if w.query.isNone then { u with query := b.query } else u)
    else match scheme, b.segments? with
      | some scheme, _ =>
        (readAbsolute? base scheme more body).map (·.withWritten w.query w.fragment)
      | none, none => none
      | none, some segments =>
        (if b.scheme == "file" then readFile? base body else readRelative? b segments more body).map
          (·.withWritten w.query w.fragment)
  | none => do
    (← readAbsolute? none (← scheme) more body).withWritten w.query w.fragment

/-- Reads an absolute address. -/
def ofString? (text : String) : Option Url := resolve? none text

end WebStyle.Url
