import WebStyle.Token
/-!
From text to tokens. Every reader takes the characters left and returns what it made of them with
the characters after it; `Token.next?` always leaves fewer, so that reading a text ends.
-/
set_option autoImplicit false

namespace WebStyle.Lexer

/-- Line ends become line feeds, and the null character the replacement character. -/
def normalize : List Char → List Char
  | '\r' :: '\n' :: r => '\n' :: normalize r
  | '\r' :: r => '\n' :: normalize r
  | '\x0C' :: r => '\n' :: normalize r
  | '\x00' :: r => '\uFFFD' :: normalize r
  | c :: r => c :: normalize r
  | [] => []

def isNameStart (c : Char) : Bool := c.isAlpha || c == '_' || !Text.isAscii c

def isNameChar (c : Char) : Bool := isNameStart c || c.isDigit || c == '-'

/-- A backslash starts an escape unless the line or the text ends after it. -/
def startsEscape : List Char → Bool
  | '\\' :: c :: _ => c != '\n'
  | _ => false

/-- Whether an identifier starts the text. -/
def startsName : List Char → Bool
  | '-' :: r =>
    match r with
    | '-' :: _ => true
    | '\\' :: _ => startsEscape r
    | c :: _ => isNameStart c
    | [] => false
  | '\\' :: r => startsEscape ('\\' :: r)
  | c :: _ => isNameStart c
  | [] => false

/-- The character of a code point; the replacement character for zero and for no code point. -/
def charOfCode (n : Nat) : Char :=
  if n = 0 then '\uFFFD' else if n.isValidChar then Char.ofNat n else '\uFFFD'

def skipOneBlank : List Char → List Char
  | c :: r => if Text.isAsciiBlank c then r else c :: r
  | [] => []

/-- Reads an escape, after its backslash: one to six hexadecimal digits, with one blank after them
if there is one, or else a character that stands for itself. -/
def readEscape : List Char → Char × List Char
  | [] => ('\uFFFD', [])
  | c :: r =>
    if Text.isHexDigit c then
      let more := (r.take 5).takeWhile Text.isHexDigit
      let code := (c :: more).foldl (fun n d => 16 * n + Text.hexValue d) 0
      (charOfCode code, skipOneBlank (r.drop more.length))
    else (c, r)

theorem skipOneBlank_length_le (cs : List Char) : (skipOneBlank cs).length ≤ cs.length := by
  cases cs with
  | nil => simp [skipOneBlank]
  | cons c r => simp only [skipOneBlank]; split <;> simp

theorem readEscape_length_le (cs : List Char) : (readEscape cs).2.length ≤ cs.length := by
  cases cs with
  | nil => simp [readEscape]
  | cons c r =>
    simp only [readEscape]
    split
    · have := skipOneBlank_length_le (r.drop ((r.take 5).takeWhile Text.isHexDigit).length)
      simp only [List.length_drop, List.length_cons] at this ⊢
      omega
    · simp

/-- Reads the longest run of name characters and escapes. -/
def readName : List Char → List Char × List Char
  | [] => ([], [])
  | c :: r =>
    if isNameChar c then
      let (name, rest) := readName r
      (c :: name, rest)
    else if startsEscape (c :: r) then
      have := readEscape_length_le r
      let (name, rest) := readName (readEscape r).2
      ((readEscape r).1 :: name, rest)
    else ([], c :: r)
  termination_by cs => cs.length
  decreasing_by all_goals (simp only [List.length_cons]; omega)

theorem readName_length_le (cs : List Char) : (readName cs).2.length ≤ cs.length := by
  fun_induction readName cs <;> simp_all <;> omega

theorem readName_length_lt {c : Char} {r : List Char} (h : startsName (c :: r)) :
    (readName (c :: r)).2.length ≤ r.length := by
  rw [readName]
  split
  · simpa using readName_length_le r
  · rename_i hc
    have : startsEscape (c :: r) := by
      unfold startsName at h
      split at h <;> simp_all [isNameChar]
    have h1 := readEscape_length_le r
    have h2 := readName_length_le (readEscape r).2
    simp only [this, ↓reduceIte]
    omega

/-- Reads a string after its opening quote; nothing is returned for a string that a line end cuts
off, and that line end is left. A text that ends inside a string closes it. -/
def readString (quote : Char) : List Char → Option (List Char) × List Char
  | [] => (some [], [])
  | c :: r =>
    if c == quote then (some [], r)
    else if c == '\n' then (none, c :: r)
    else if c == '\\' then
      match r with
      | [] => (some [], [])
      | '\n' :: r => readString quote r
      | d :: r =>
        have := readEscape_length_le (d :: r)
        let (value, rest) := readString quote (readEscape (d :: r)).2
        (value.map ((readEscape (d :: r)).1 :: ·), rest)
    else
      let (value, rest) := readString quote r
      (value.map (c :: ·), rest)
  termination_by cs => cs.length
  decreasing_by all_goals (simp only [List.length_cons] at *; omega)

theorem readString_length_le (q : Char) (cs : List Char) :
    (readString q cs).2.length ≤ cs.length := by
  fun_induction readString q cs <;> simp_all <;> omega

/-- What follows a malformed address: all after its closing parenthesis. -/
def skipBadUrl : List Char → List Char
  | [] => []
  | ')' :: r => r
  | '\\' :: _ :: r => skipBadUrl r
  | _ :: r => skipBadUrl r

theorem skipBadUrl_length_le (cs : List Char) : (skipBadUrl cs).length ≤ cs.length := by
  fun_induction skipBadUrl cs <;> simp_all <;> omega

/-- Ends an address: blanks may come before the closing parenthesis, and nothing else. -/
def endUrl (address : List Char) (cs : List Char) : Option (List Char) × List Char :=
  match cs.dropWhile Text.isAsciiBlank with
  | [] => (some address, [])
  | ')' :: r => (some address, r)
  | r => (none, skipBadUrl r)

theorem endUrl_length_le (a cs : List Char) : (endUrl a cs).2.length ≤ cs.length := by
  have h := (List.dropWhile_sublist Text.isAsciiBlank (l := cs)).length_le
  unfold endUrl
  split
  · simp
  · simp_all; omega
  · exact Nat.le_trans (skipBadUrl_length_le _) h

/-- Reads an address without quotes. -/
def readBareUrl : List Char → Option (List Char) × List Char
  | [] => (some [], [])
  | c :: r =>
    if c == ')' then (some [], r)
    else if Text.isAsciiBlank c then endUrl [] r
    else if c == '"' || c == '\'' || c == '(' then (none, skipBadUrl (c :: r))
    else if c == '\\' then
      if startsEscape (c :: r) then
        have := readEscape_length_le r
        let (address, rest) := readBareUrl (readEscape r).2
        (address.map ((readEscape r).1 :: ·), rest)
      else (none, skipBadUrl (c :: r))
    else
      let (address, rest) := readBareUrl r
      (address.map (c :: ·), rest)
  termination_by cs => cs.length
  decreasing_by all_goals (simp only [List.length_cons]; omega)

theorem readBareUrl_length_le (cs : List Char) : (readBareUrl cs).2.length ≤ cs.length := by
  fun_induction readBareUrl cs with
  | case1 => simp
  | case2 => simp
  | case3 c r => have := endUrl_length_le [] r; simp; omega
  | case4 c r => exact skipBadUrl_length_le _
  | case5 => simp_all; omega
  | case6 => exact skipBadUrl_length_le _
  | case7 => simp_all; omega

/-- Reads an address, quoted or not, after the opening parenthesis. -/
def readUrl (cs : List Char) : Option (List Char) × List Char :=
  match cs.dropWhile Text.isAsciiBlank with
  | c :: r =>
    if c == '"' || c == '\'' then
      match readString c r with
      | (some address, rest) => endUrl address rest
      | (none, rest) => (none, skipBadUrl rest)
    else readBareUrl (c :: r)
  | [] => (some [], [])

theorem readUrl_length_le (cs : List Char) : (readUrl cs).2.length ≤ cs.length := by
  have h := (List.dropWhile_sublist Text.isAsciiBlank (l := cs)).length_le
  unfold readUrl
  split
  · rename_i c r heq
    rw [heq] at h
    have hs := readString_length_le c r
    split
    · split
      · rename_i a rest h'
        have := endUrl_length_le a rest
        simp_all; omega
      · rename_i rest h'
        have := skipBadUrl_length_le rest
        simp_all; omega
    · exact Nat.le_trans (readBareUrl_length_le _) h
  · simp

/-- Reads a number with its unit or percent sign. -/
def readNumeric (cs : List Char) : Token × List Char :=
  let (value, rest) := Numeral.read cs
  if startsName rest then
    let (unit, rest) := readName rest
    (.dimension value (String.ofList unit), rest)
  else match rest with
    | '%' :: r => (.percentage value, r)
    | r => (.number value, r)

theorem readNumeric_length_lt {cs : List Char} (h : Numeral.starts cs) :
    (readNumeric cs).2.length < cs.length := by
  have hn := Numeral.read_length_lt h
  have hr := readName_length_le (Numeral.read cs).2
  simp only [readNumeric]
  split
  · simp only; omega
  · split <;> simp_all; omega

/-- Reads a name, and takes it for an identifier, a function or an address. -/
def readNamed (cs : List Char) : Token × List Char :=
  match readName cs with
  | (name, '(' :: r) =>
    let name := String.ofList name
    if Text.sameIgnoringCase name "url" then
      match readUrl r with
      | (some address, rest) => (.url (String.ofList address), rest)
      | (none, rest) => (.badUrl, rest)
    else (.function name, r)
  | (name, rest) => (.ident (String.ofList name), rest)

theorem readNamed_length_le {c : Char} {r : List Char} (h : startsName (c :: r)) :
    (readNamed (c :: r)).2.length ≤ r.length := by
  have hn := readName_length_lt h
  unfold readNamed
  split
  · rename_i name rest heq
    have hu := readUrl_length_le rest
    rw [heq] at hn
    simp only [List.length_cons] at hn
    dsimp only
    split
    · split <;> simp_all <;> omega
    · dsimp only; omega
  · rename_i name rest _ heq
    rw [heq] at hn
    exact hn

def readQuoted (quote : Char) (cs : List Char) : Token × List Char :=
  match readString quote cs with
  | (some value, rest) => (.string (String.ofList value), rest)
  | (none, rest) => (.badString, rest)

theorem readQuoted_length_le (q : Char) (cs : List Char) :
    (readQuoted q cs).2.length ≤ cs.length := by
  have := readString_length_le q cs
  unfold readQuoted
  split <;> simp_all

/-- The token that a character makes on its own, if no longer one starts with it. -/
def single : Char → Token
  | ':' => .colon
  | ';' => .semicolon
  | ',' => .comma
  | '[' => .openSquare
  | ']' => .closeSquare
  | '(' => .openParen
  | ')' => .closeParen
  | '\x7b' => .openBrace
  | '\x7d' => .closeBrace
  | c => .delim c

/-- Reads the token that starts with `c`, which is no blank. -/
def readToken (c : Char) (r : List Char) : Token × List Char :=
  if c == '"' || c == '\'' then readQuoted c r
  else if c == '#' then
    if r.head?.any isNameChar || startsEscape r then
      let (name, rest) := readName r
      (.hash (String.ofList name) (startsName r), rest)
    else (single c, r)
  else if Numeral.starts (c :: r) then readNumeric (c :: r)
  else if c == '@' then
    if startsName r then
      let (name, rest) := readName r
      (.atKeyword (String.ofList name), rest)
    else (single c, r)
  else if c == '-' && ['-', '>'].isPrefixOf r then (.markupClose, r.drop 2)
  else if c == '<' && ['!', '-', '-'].isPrefixOf r then (.markupOpen, r.drop 3)
  else if startsName (c :: r) then readNamed (c :: r)
  else (single c, r)

theorem readToken_length_le (c : Char) (r : List Char) : (readToken c r).2.length ≤ r.length := by
  unfold readToken
  split
  · exact readQuoted_length_le c r
  split
  · split
    · simpa using readName_length_le r
    · simp
  split
  · rename_i h
    have := readNumeric_length_lt h
    simp at this
    omega
  split
  · split
    · simpa using readName_length_le r
    · simp
  split
  · simp
  split
  · simp
  split
  · rename_i h
    exact readNamed_length_le h
  · simp

/-- What follows a comment; one that is not closed lasts to the end of the text. -/
def skipComment : List Char → List Char
  | '*' :: '/' :: r => r
  | _ :: r => skipComment r
  | [] => []

theorem skipComment_length_le (cs : List Char) : (skipComment cs).length ≤ cs.length := by
  fun_induction skipComment cs <;> simp_all <;> omega

/-- Skips blanks and comments; tells whether there was a blank among them. -/
def skipSpace (seen : Bool) : List Char → Bool × List Char
  | '/' :: '*' :: r =>
    have : (skipComment r).length < r.length + 1 + 1 :=
      Nat.lt_succ_of_le (Nat.le_succ_of_le (skipComment_length_le r))
    skipSpace seen (skipComment r)
  | c :: r => if Text.isAsciiBlank c then skipSpace true r else (seen, c :: r)
  | [] => (seen, [])
  termination_by cs => cs.length

theorem skipSpace_length_le (seen : Bool) (cs : List Char) :
    (skipSpace seen cs).2.length ≤ cs.length := by
  fun_induction skipSpace seen cs <;> simp_all <;> omega

/-- A blank that is reported, and was not seen before, is among what is skipped. -/
theorem skipSpace_length_lt (seen : Bool) (cs : List Char) (hs : seen = false)
    (h : (skipSpace seen cs).1) : (skipSpace seen cs).2.length < cs.length := by
  fun_induction skipSpace seen cs with
  | case1 seen r _ ih => have := ih hs h; simp; omega
  | case2 seen c r _ hc ih => exact Nat.lt_succ_of_le (skipSpace_length_le true r)
  | case3 => simp_all
  | case4 => simp_all

/-- The next token and what follows it. Comments alone make no token. -/
def next? (cs : List Char) : Option (Token × List Char) :=
  match skipSpace false cs with
  | (true, rest) => some (.blank, rest)
  | (false, []) => none
  | (false, c :: r) => some (readToken c r)

theorem next?_length_lt {cs : List Char} {p : Token × List Char} (h : next? cs = some p) :
    p.2.length < cs.length := by
  have hle := skipSpace_length_le false cs
  have hlt := skipSpace_length_lt false cs rfl
  unfold next? at h
  split at h
  · simp_all; grind
  · simp at h
  · rename_i c r heq
    have := readToken_length_le c r
    simp_all
    grind

/-- The tokens of normalized characters. -/
def tokens (cs : List Char) : List Token :=
  match h : next? cs with
  | none => []
  | some (t, rest) =>
    have : rest.length < cs.length := next?_length_lt h
    t :: tokens rest
  termination_by cs.length

/-- The tokens of a text. -/
def tokenize (text : String) : List Token := tokens (normalize text.toList)

end WebStyle.Lexer

namespace WebStyle

export Lexer (tokenize)

end WebStyle
