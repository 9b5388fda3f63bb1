import WebStyle.Selector.Parser
import WebStyle.Media.Parser
import WebStyle.Sheet.Declaration
/-!
The rules of a style sheet as they are written, and how they are read from tokens. A malformed rule
is dropped with what belongs to it, and reading goes on after it.
-/
set_option autoImplicit false

namespace WebStyle

/-- A rule as written. -/
inductive RuleSource where
  | style (selectors : SelectorList) (declarations : List Declaration)
  | media (media : MediaList) (rules : List RuleSource)
  /-- The address is not resolved. -/
  | importing (href : String) (media : MediaList)
  | fontFace (declarations : List Declaration)
  /-- The selector of the pages is canonical text, empty for all of them. -/
  | page (selector : String) (declarations : List Declaration)
  deriving Repr, BEq

namespace RuleReader

/-- How far a rule reaches, from the start of its prelude. -/
inductive Extent where
  | block (prelude body rest : List Token)
  /-- A block that never closes; it takes up everything. -/
  | unclosed (prelude : List Token)
  /-- No block; a semicolon or a stray closing brace ends the prelude. -/
  | statement (prelude rest : List Token)
  /-- No block, and no end. -/
  | unended (prelude : List Token)

def Extent.prelude : Extent → List Token
  | .block prelude _ _ | .unclosed prelude | .statement prelude _ | .unended prelude => prelude

/-- The body of the block, if there is one. -/
def Extent.body : Extent → List Token
  | .block _ body _ => body
  | _ => []

/-- What follows the rule. -/
def Extent.rest : Extent → List Token
  | .block _ _ rest | .statement _ rest => rest
  | .unclosed _ | .unended _ => []

/-- Puts a token before the prelude. -/
def Extent.cons (t : Token) : Extent → Extent
  | .block prelude body rest => .block (t :: prelude) body rest
  | .unclosed prelude => .unclosed (t :: prelude)
  | .statement prelude rest => .statement (t :: prelude) rest
  | .unended prelude => .unended (t :: prelude)

/-- Finds the end of a rule at the given depth of parentheses and brackets. An opening brace starts
the block at any depth, a closing one ends the rule at any depth, and a semicolon does so outside
groups. -/
def extent (depth : Nat) : List Token → Extent
  | [] => .unended []
  | t :: r =>
    if t == .openBrace then
      match splitAtClose? (· == .openBrace) (· == .closeBrace) 0 r with
      | some (body, rest) => .block [] body rest
      | none => .unclosed []
    else if t == .closeBrace || (t == .semicolon && depth == 0) then .statement [] r
    else
      let depth := if t.opensGroup then depth + 1 else if t.closesGroup then depth - 1 else depth
      (extent depth r).cons t

/-- What came of one construct. -/
structure Reading where
  rule : Option RuleSource
  dropped : List Dropped

def Reading.none (cause : DropCause) (tokens : List Token) : Reading :=
  ⟨.none, [.ofTokens cause tokens]⟩

/-- Reads a style rule that starts `tokens` and reaches as far as given. -/
def styleRule (tokens : List Token) : Extent → Reading
  | .statement prelude _ | .unended prelude => .none .missingBlock prelude
  | .unclosed _ => .none .unbalancedBlock tokens
  | .block prelude body _ =>
    match SelectorList.ofTokens? (trimBlanks prelude) with
    | some selectors =>
      let (declarations, dropped) := Declaration.listOfTokens body
      ⟨some (.style selectors declarations), dropped⟩
    | .none => .none .invalidSelector (trimBlanks prelude)

/-- The address and the media of an import. -/
def importPrelude? : List Token → Option RuleSource
  | .url href :: r | .string href :: r =>
    if r.any Token.isBad then none else some (.importing href (.ofTokens r))
  | _ => none

/-- Reads an import that starts `tokens`; its prelude follows the keyword. -/
def importRule (tokens : List Token) (allowed : Bool) : Extent → Reading
  | .block prelude _ _ | .unclosed prelude =>
    .none .invalidImport (tokens.take (prelude.length + 1))
  | .statement prelude _ | .unended prelude =>
    let prelude := trimBlanks prelude
    if !allowed then .none .misplacedImport prelude
    else match importPrelude? prelude with
      | some rule => ⟨some rule, []⟩
      | .none => .none .invalidImport prelude

/-- Reads an at-rule with a block. It starts `tokens`, and its prelude follows the first of them. -/
def blockRule (tokens : List Token) (build : (prelude body : List Token) → Reading) :
    Extent → Reading
  | .statement prelude _ | .unended prelude =>
    .none .missingBlock (tokens.take (prelude.length + 1))
  | .unclosed _ => .none .unbalancedBlock tokens
  | .block prelude body _ => build (trimBlanks prelude) body

def fontFaceRule (prelude body : List Token) : Reading :=
  if prelude.isEmpty then
    let (declarations, dropped) := Declaration.listOfTokens body
    ⟨some (.fontFace declarations), dropped⟩
  else .none .invalidPrelude prelude

def pageRule (prelude body : List Token) : Reading :=
  let (declarations, dropped) := Declaration.listOfTokens body
  ⟨some (.page (tokensText prelude) declarations), dropped⟩

/-- Reads an at-rule of the given lower-case name. `inner` are the rules of its block, of use to a
media rule only. An unknown rule leaves no trace. -/
def atRule (name : String) (importsAllowed : Bool) (tokens : List Token)
    (inner : List RuleSource × List Dropped) (e : Extent) : Reading :=
  match name with
  | "import" => importRule tokens importsAllowed e
  | "media" =>
    blockRule tokens (fun prelude _ => ⟨some (.media (.ofTokens prelude) inner.1), inner.2⟩) e
  | "font-face" => blockRule tokens fontFaceRule e
  | "page" => blockRule tokens pageRule e
  | _ => ⟨none, []⟩

@[simp] theorem Extent.body_cons (t : Token) (e : Extent) : (e.cons t).body = e.body := by
  cases e <;> rfl

@[simp] theorem Extent.rest_cons (t : Token) (e : Extent) : (e.cons t).rest = e.rest := by
  cases e <;> rfl

/-- A rule's block and what follows the rule lie apart in the tokens. -/
theorem extent_length_le (depth : Nat) (ts : List Token) :
    (extent depth ts).body.length + (extent depth ts).rest.length ≤ ts.length := by
  fun_induction extent depth ts with
  | case1 => simp [Extent.body, Extent.rest]
  | case2 depth t r _ body rest h =>
    have := splitAtClose?_length h
    simp only [Extent.body, Extent.rest, List.length_cons] at this ⊢
    omega
  | case3 => simp [Extent.body, Extent.rest]
  | case4 => simp [Extent.body, Extent.rest]
  | case5 depth t r _ _ depth' ih =>
    simp only [Extent.body_cons, Extent.rest_cons, List.length_cons]
    omega

/-- A qualified rule starts with a token that does not end it at once. -/
theorem extent_rest_length_lt (t : Token) (r : List Token) :
    (extent 0 (t :: r)).rest.length < (t :: r).length := by
  rw [extent]
  split
  · split
    · rename_i body rest h
      have := splitAtClose?_length h
      simp only [Extent.rest, List.length_cons] at this ⊢
      omega
    · simp [Extent.rest]
  · split
    · simp [Extent.rest]
    · have := extent_length_le
        (if t.opensGroup then 0 + 1 else if t.closesGroup then 0 - 1 else 0) r
      simp only [Extent.rest_cons, List.length_cons]
      omega

/-- Whether a keyword may stand before imports. -/
def keepsImports (name : String) : Bool := name == "charset" || name == "import"

/-- Reads rules up to the end. Comment marks of markup are skipped at the top level of a sheet only;
imports are allowed there until another rule was seen. -/
def readRules (topLevel importsAllowed : Bool) (tokens : List Token) :
    List RuleSource × List Dropped :=
  match tokens with
  | [] => ([], [])
  | t :: r =>
    if t.isBlank || (topLevel && (t == .markupOpen || t == .markupClose)) then
      readRules topLevel importsAllowed r
    else if t == .closeBrace || t == .semicolon then
      let (rules, dropped) := readRules topLevel importsAllowed r
      (rules, .ofTokens .unexpectedToken [t] :: dropped)
    else
      match t with
      | .atKeyword name =>
        let name := Text.lower name
        let e := extent 0 r
        have : (extent 0 r).body.length + (extent 0 r).rest.length ≤ r.length :=
          extent_length_le 0 r
        let inner := if name == "media" then readRules false false e.body else ([], [])
        let reading := atRule name importsAllowed tokens inner e
        let (rules, dropped) := readRules topLevel (importsAllowed && keepsImports name) e.rest
        (reading.rule.toList ++ rules, reading.dropped ++ dropped)
      | t =>
        let e := extent 0 (t :: r)
        have : (extent 0 (t :: r)).rest.length < (t :: r).length := extent_rest_length_lt t r
        let reading := styleRule tokens e
        let (rules, dropped) :=
          readRules topLevel (importsAllowed && reading.rule.isNone) e.rest
        (reading.rule.toList ++ rules, reading.dropped ++ dropped)
  termination_by tokens.length
  decreasing_by all_goals (simp only [List.length_cons] at *; omega)

/-- Reads the one construct that starts the tokens, and returns what follows it. -/
def readOne (tokens : List Token) : Reading × List Token :=
  match tokens with
  | .atKeyword name :: r =>
    let name := Text.lower name
    let e := extent 0 r
    let inner := if name == "media" then readRules false false e.body else ([], [])
    (atRule name true tokens inner e, e.rest)
  | tokens =>
    let e := extent 0 tokens
    (styleRule tokens e, e.rest)

end RuleReader

/-- The rules of a sheet, and the pieces of it that were dropped. -/
structure SheetSource where
  rules : List RuleSource
  dropped : List Dropped
  deriving Repr, BEq

def SheetSource.ofTokens (tokens : List Token) : SheetSource :=
  let (rules, dropped) := RuleReader.readRules true true tokens
  ⟨rules, dropped⟩

/-- Reads a whole sheet. Every text is one. -/
def SheetSource.ofString (text : String) : SheetSource := ofTokens (tokenize text)

/-- Reads a text that holds a list of selectors. -/
def SelectorList.ofString (text : String) : Except SyntaxError SelectorList :=
  match SelectorList.ofString? text with
  | some l => .ok l
  | none => .error (.invalidSelector (Text.trim text))

open RuleReader in
/-- Reads a text that holds exactly one rule. What is malformed inside of it is dropped. -/
def RuleSource.ofString (text : String) : Except SyntaxError RuleSource :=
  match trimBlanks (tokenize text) with
  | [] => .error (.emptyRule (Text.trim text))
  | t :: r =>
    let (reading, rest) := readOne (t :: r)
    match reading.rule, reading.dropped.getLast? with
    | some rule, _ =>
      if (trimBlanks rest).isEmpty then .ok rule else .error (.trailingContent (Text.trim text))
    | none, some d =>
      if d.cause == .invalidSelector then .error (.invalidSelector d.snippet)
      else .error (.malformedRule (Text.trim text) d.cause)
    | none, none => .error (.emptyRule (Text.trim text))

end WebStyle
