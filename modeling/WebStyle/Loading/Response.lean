import WebStyle.Encoding.Decoder
import WebStyle.Loading.Queue
import WebStyle.Loading.Error
/-!
How a response becomes the text of a style sheet. Its encoding is told by a byte order mark, by the
type of the content, by a rule at its start, by the element that refers to it, by the encoding of
what refers to it, or by a default, the first of these that tells one.
-/
set_option autoImplicit false

namespace WebStyle

/-- A fetched resource. -/
structure Response where
  bytes : List UInt8
  /-- The type of the content, with its parameters. -/
  contentType : Option String
  /-- A label given with the response; it counts in place of the referring element's. -/
  charset : Option String
  deriving DecidableEq, Repr

/-- A style sheet of the given text. -/
def Response.ofText (text : String) : Response :=
  ⟨text.toUTF8.toList, some "text/css", none⟩

structure LoaderSettings where
  /-- The label of the encoding that is used when nothing else tells one. -/
  defaultCharset : String
  /-- How many sheets may import each other in a row, the outermost one included. -/
  maxImportDepth : Nat
  /-- Whether responses of a type other than that of style sheets are refused. -/
  isStrict : Bool
  deriving DecidableEq, Repr

namespace LoaderSettings

def standard : LoaderSettings := ⟨"utf-8", 16, false⟩

/-- The default encoding; an unknown label means UTF-8. -/
def defaultEncoding (s : LoaderSettings) : Encoding :=
  (Encoding.ofLabel? (Text.trim s.defaultCharset)).getD .utf8

end LoaderSettings

namespace ContentType

def parts (contentType : String) : List (List Char) :=
  Text.splitAtEach (· == ';') contentType.toList

/-- Takes quotes of both kinds off a value, double ones first. -/
def unquote (cs : List Char) : List Char := trimBy (· == '\x27') (trimBy (· == '"') cs)

def trimmed (cs : List Char) : List Char := trimBy Text.isBlank cs

/-- The label that a parameter gives, if it is the one for the charset. -/
def charsetOf? (parameter : List Char) : Option String :=
  match Text.cutAt (· == '=') parameter with
  | (name, some value) =>
    let value := unquote (trimmed value)
    if Text.sameIgnoringCase (String.ofList (trimmed name)) "charset" && !value.isEmpty then
      some (String.ofList value)
    else none
  | (_, none) => none

/-- The charset that a type of content names. -/
def charset? (contentType : String) : Option String := (parts contentType).tail.findSome? charsetOf?

/-- The type without its parameters, in lower case. -/
def essence (contentType : String) : String :=
  Text.lower (String.ofList (trimmed ((parts contentType).headD [])))

end ContentType

namespace Charset

/-- The start of the rule that tells the encoding of the sheet that it opens. -/
def ruleStart : List UInt8 := "@charset \"".toUTF8.toList

/-- The label of the rule, of which at most so many bytes are looked at. -/
def labelLimit : Nat := 1024

/-- The encoding that the rule at the very start tells. The rule could be read byte by byte, so that
UTF-16 cannot be right. -/
def ofRule? (bytes : List UInt8) : Option Encoding := do
  let rest ← ruleStart.isPrefixOf? bytes
  let isQuote (b : UInt8) : Bool := b == 0x22
  let label := rest.takeWhile (!isQuote ·)
  if labelLimit ≤ label.length then none
  match rest.dropWhile (!isQuote ·) with
  | _ :: 0x3B :: _ =>
    match ← Encoding.ofLabel? (String.ofList (label.map fun b => Char.ofNat b.toNat)) with
    | .utf16 _ => some .utf8
    | e => some e
  | _ => none

/-- What is known of the encoding besides the bytes. -/
structure Hints where
  declared : Option String
  contentType : Option String
  referrer : Option Encoding
  default : Encoding

/-- The encoding of bytes without a byte order mark. -/
def detect (bytes : List UInt8) (h : Hints) : Encoding :=
  let ofLabel? (label : String) : Option Encoding := Encoding.ofLabel? (Text.trim label)
  ((((h.contentType.bind ContentType.charset?).bind ofLabel?).or (ofRule? bytes)).or
    ((h.declared.bind ofLabel?).or h.referrer)).getD h.default

end Charset

/-- The text of a sheet, with the encoding that it was read in. -/
structure SheetText where
  text : String
  encoding : Encoding
  deriving DecidableEq, Repr

/-- Reads the bytes of a sheet. -/
def SheetText.ofBytes (bytes : List UInt8) (h : Charset.Hints) : SheetText :=
  match Encoding.ofMark? bytes with
  | some (e, rest) => ⟨e.decode rest, e⟩
  | none =>
    let e := Charset.detect bytes h
    ⟨e.decode bytes, e⟩

/-- Reads the response to a load. -/
def SheetText.ofResponse {τ : Type} (load : PendingLoad τ) (r : Response) (s : LoaderSettings) :
    Except LoadError SheetText :=
  let refused? := (r.contentType.map ContentType.essence).filter fun t => s.isStrict && t != "text/css"
  match refused? with
  | some type => .error (.unsupportedType load.url.text type)
  | none =>
    .ok (.ofBytes r.bytes
      ⟨r.charset.or load.declared, r.contentType, load.referrer, s.defaultEncoding⟩)

end WebStyle
