import WebStyle.Proofs.Cursor.Declaration
import WebStyle.Proofs.Cursor.Lexer
import WebStyle.Proofs.Cursor.Media
import WebStyle.Proofs.Cursor.Selector
import WebStyle.Proofs.Cursor.Value
import WebStyle.Proofs.Sheet.Recovery
import WebStyle.Sheet.Rule
/-!
Rules by positions: the index where a prelude stops, the index of the brace that closes a block, and
the slices between them. Every text is read without a fault: each reader of texts returns what its
counterpart on lists returns.
-/
set_option autoImplicit false

namespace WebStyle.Cursor

open WebStyle.RuleReader

/-- Where the prelude of a rule stops. -/
inductive PreludeEnd where
  /-- At the opening brace of this index. -/
  | block (i : Nat)
  /-- At the semicolon or the stray closing brace of this index. -/
  | statement (i : Nat)
  | unended

/-- Finds the end of a prelude among the tokens from index `i` on. -/
def preludeEnd (depth i : Nat) : List Token → PreludeEnd
  | [] => .unended
  | t :: ts =>
    if t.opensGroup then preludeEnd (depth + 1) (i + 1) ts
    else if t.closesGroup then preludeEnd (depth - 1) (i + 1) ts
    else if t == .openBrace then .block i
    else if t == .closeBrace || (t == .semicolon && depth == 0) then .statement i
    else preludeEnd depth (i + 1) ts

/-- The index of the brace that closes the block of an opening one. -/
def closingBrace (tokens : List Token) (opening : Nat) : Checked (Option Nat) :=
  blockEndAt 0 opening (tokens.drop opening)

/-- The position after a block, or after everything if it never closes. -/
def skipBlock (tokens : List Token) (opening : Nat) : Checked Nat := do
  .ok (((← closingBrace tokens opening).map (· + 1)).getD tokens.length)

/-- A rule that is not formed, and the position where reading goes on. -/
def failure (cause : DropCause) (tokens : List Token) (next : Nat) : Checked (Reading × Nat) := do
  .ok (⟨none, [← dropped cause tokens]⟩, next)

/-- Reads the prelude and the body of a rule with a block. -/
def blockRuleAt (tokens : List Token) (start preludeStart : Nat)
    (build : (prelude body : List Token) → Checked Reading) : Checked (Reading × Nat) := do
  match preludeEnd 0 preludeStart (tokens.drop preludeStart) with
  | .statement i => failure .missingBlock (← slice tokens start i) (i + 1)
  | .unended => failure .missingBlock (← slice tokens start tokens.length) tokens.length
  | .block opening =>
    match ← closingBrace tokens opening with
    | none => failure .unbalancedBlock (← slice tokens start tokens.length) tokens.length
    | some close =>
      let prelude ← trim (← slice tokens preludeStart opening)
      .ok (← build prelude (← slice tokens (opening + 1) close), close + 1)

/-- A style rule, from its trimmed prelude and the tokens of its block. -/
def styleRuleOf (prelude body : List Token) : Checked Reading := do
  match ← attempt (selectorList prelude) with
  | some selectors =>
    let (ds, errors) ← declarations body
    .ok ⟨some (.style (← selectors.mapM chain) ds), errors⟩
  | none => .ok ⟨none, [← dropped .invalidSelector prelude]⟩

def qualifiedRule (tokens : List Token) (start : Nat) : Checked (Reading × Nat) :=
  blockRuleAt tokens start start styleRuleOf

def importPrelude (prelude : List Token) : Checked RuleSource :=
  match prelude with
  | .url href :: r | .string href :: r => do
    if r.any Token.isBad then .error .refused else .ok (.importing href (← mediaList r))
  | _ => .error .refused

/-- An import whose prelude lies between two positions. -/
def importAt (tokens : List Token) (start stop next : Nat) (allowed : Bool) :
    Checked (Reading × Nat) := do
  let prelude ← trim (← slice tokens start stop)
  if !allowed then failure .misplacedImport prelude next
  else match ← attempt (importPrelude prelude) with
    | some rule => .ok (⟨some rule, []⟩, next)
    | none => failure .invalidImport prelude next

/-- A media rule, the rules of whose block are read as given. -/
def mediaRuleOf (inner : List Token → Checked (List RuleSource × List Dropped))
    (prelude body : List Token) : Checked Reading := do
  let media ← mediaList prelude
  let (rules, errors) ← inner body
  .ok ⟨some (.media media rules), errors⟩

def fontFaceRuleOf (prelude body : List Token) : Checked Reading := do
  if prelude.isEmpty then
    let (ds, errors) ← declarations body
    .ok ⟨some (.fontFace ds), errors⟩
  else .ok ⟨none, [← dropped .invalidPrelude prelude]⟩

def pageRuleOf (prelude body : List Token) : Checked Reading := do
  let (ds, errors) ← declarations body
  .ok ⟨some (.page (String.ofList (← text prelude)) ds), errors⟩

/-- The rule of the at-keyword at a position, whose name is in lower case. -/
def atRuleAt (inner : List Token → Checked (List RuleSource × List Dropped)) (tokens : List Token)
    (start : Nat) (name : String) (importsAllowed : Bool) : Checked (Reading × Nat) := do
  match name with
  | "import" =>
    match preludeEnd 0 (start + 1) (tokens.drop (start + 1)) with
    | .statement i => importAt tokens (start + 1) i (i + 1) importsAllowed
    | .unended => importAt tokens (start + 1) tokens.length tokens.length importsAllowed
    | .block opening =>
      failure .invalidImport (← slice tokens start opening) (← skipBlock tokens opening)
  | "media" => blockRuleAt tokens start (start + 1) (mediaRuleOf inner)
  | "font-face" => blockRuleAt tokens start (start + 1) fontFaceRuleOf
  | "page" => blockRuleAt tokens start (start + 1) pageRuleOf
  | _ =>
    match preludeEnd 0 (start + 1) (tokens.drop (start + 1)) with
    | .statement i => .ok (⟨none, []⟩, i + 1)
    | .unended => .ok (⟨none, []⟩, tokens.length)
    | .block opening => .ok (⟨none, []⟩, ← skipBlock tokens opening)

/-! ### Preludes and blocks -/

/-- What an extent says of the tokens it was found in. -/
def Covers (r : List Token) : Extent → Prop
  | .block prelude body rest =>
    ∃ u, r = prelude ++ .openBrace :: u ∧
      splitAtClose? (· == .openBrace) (· == .closeBrace) 0 u = some (body, rest)
  | .unclosed prelude =>
    ∃ u, r = prelude ++ .openBrace :: u ∧
      splitAtClose? (· == .openBrace) (· == .closeBrace) 0 u = none
  | .statement prelude rest => ∃ t, r = prelude ++ t :: rest
  | .unended prelude => r = prelude

theorem covers_cons {r : List Token} {e : Extent} (h : Covers r e) (t : Token) :
    Covers (t :: r) (e.cons t) := by
  cases e with
  | block prelude body rest =>
    obtain ⟨u, rfl, hu⟩ := h
    exact ⟨u, rfl, hu⟩
  | unclosed prelude =>
    obtain ⟨u, rfl, hu⟩ := h
    exact ⟨u, rfl, hu⟩
  | statement prelude rest =>
    obtain ⟨u, rfl⟩ := h
    exact ⟨u, rfl⟩
  | unended prelude =>
    obtain rfl : r = prelude := h
    rfl

theorem covers_extent (depth : Nat) (r : List Token) : Covers r (extent depth r) := by
  fun_induction extent depth r with
  | case1 => rfl
  | case2 depth t r ht body rest h =>
    obtain rfl := beq_iff_eq.1 ht
    exact ⟨r, rfl, h⟩
  | case3 depth t r ht h =>
    obtain rfl := beq_iff_eq.1 ht
    exact ⟨r, rfl, h⟩
  | case4 depth t r _ _ => exact ⟨t, rfl⟩
  | case5 depth t r _ _ depth' ih => exact covers_cons ih t

/-- The end of the prelude of an extent whose prelude starts at an index. -/
def endOf (i : Nat) : Extent → PreludeEnd
  | .block prelude _ _ | .unclosed prelude => .block (i + prelude.length)
  | .statement prelude _ => .statement (i + prelude.length)
  | .unended _ => .unended

theorem endOf_cons (i : Nat) (t : Token) (e : Extent) : endOf i (e.cons t) = endOf (i + 1) e := by
  cases e <;> simp [endOf, Extent.cons, Nat.add_assoc, Nat.add_comm 1]

theorem preludeEnd_eq (depth i : Nat) (r : List Token) :
    preludeEnd depth i r = endOf i (extent depth r) := by
  induction r generalizing depth i with
  | nil => rfl
  | cons t r ih =>
    rw [preludeEnd, extent]
    by_cases ho : t = .openBrace
    · subst ho
      cases splitAtClose? (· == .openBrace) (· == .closeBrace) 0 r <;>
        simp [endOf, Token.opensGroup, Token.closesGroup]
    · by_cases hend : t == .closeBrace || (t == .semicolon && depth == 0)
      · have hgroup : t.opensGroup = false ∧ t.closesGroup = false := by
          cases t <;> simp_all [Token.opensGroup, Token.closesGroup]
        simp [ho, hend, hgroup, endOf]
      · simp only [ho, hend, beq_iff_eq, if_false, endOf_cons, ← ih, Bool.false_eq_true]
        split
        · rfl
        · split <;> rfl

section Block
variable {tokens r u : List Token} {start pos : Nat}

theorem closingBrace_eq (h : At tokens pos (.openBrace :: u)) :
    closingBrace tokens pos = .ok
      ((splitAtClose? (· == .openBrace) (· == .closeBrace) 0 u).map (pos + 1 + ·.1.length)) := by
  rw [closingBrace, h.drop]
  exact blockEndAt_eq 0 (pos + 1) u

theorem failure_eq (cause : DropCause) (ts : List Token) (next : Nat) :
    failure cause ts next = .ok (.none cause ts, next) := by
  rw [failure, dropped_eq]
  rfl

/-- What comes of a rule with a block, whose prelude follows some tokens that belong to the rule. -/
def blockReading (lead r : List Token) (read : (prelude body : List Token) → Reading) :
    Extent → Reading
  | .statement prelude _ | .unended prelude => .none .missingBlock (lead ++ prelude)
  | .unclosed _ => .none .unbalancedBlock (lead ++ r)
  | .block prelude body _ => read (trimBlanks prelude) body

theorem blockRuleAt_lands (lead : List Token) (h : At tokens start (lead ++ r))
    {build : (prelude body : List Token) → Checked Reading}
    {read : (prelude body : List Token) → Reading}
    (hbuild : ∀ prelude body, body.length < tokens.length →
      build prelude body = .ok (read prelude body)) :
    Lands tokens (blockRuleAt tokens start (start + lead.length) build)
      (blockReading lead r read (extent 0 r), (extent 0 r).rest) := by
  have hprelude := h.add
  have hcovers := covers_extent 0 r
  rw [blockRuleAt, hprelude.drop, preludeEnd_eq]
  cases he : extent 0 r with
  | statement prelude rest =>
    rw [he] at hcovers
    obtain ⟨t, rfl⟩ := hcovers
    rw [← List.append_assoc] at h
    have hslice := h.slice
    rw [List.length_append, ← Nat.add_assoc] at hslice
    simp only [endOf, hslice, ok_bind, failure_eq]
    have := h.add.next
    rw [List.length_append, ← Nat.add_assoc] at this
    exact .of_at this _
  | unended prelude =>
    rw [he] at hcovers
    obtain rfl : r = prelude := hcovers
    simp only [endOf, h.slice_rest, ok_bind, failure_eq]
    exact .of_at (.stop tokens) _
  | unclosed prelude =>
    rw [he] at hcovers
    obtain ⟨u, rfl, hu⟩ := hcovers
    simp only [endOf, closingBrace_eq hprelude.add, hu, Option.map_none, ok_bind, h.slice_rest,
      failure_eq]
    exact .of_at (.stop tokens) _
  | block prelude body rest =>
    rw [he] at hcovers
    obtain ⟨u, rfl, hu⟩ := hcovers
    obtain ⟨hbody, hrest⟩ := hprelude.add.next.group hu
    have hlength := hprelude.add.next.length
    have hshort := splitAtClose?_length hu
    simp only [endOf, closingBrace_eq hprelude.add, hu, Option.map_some, ok_bind, hprelude.slice,
      trim_eq, hbody, hbuild _ body (by simp only at hshort; omega)]
    exact .of_at hrest _

theorem blockRule_eq (t : Token) (r : List Token) (read : (prelude body : List Token) → Reading) :
    blockRule (t :: r) read (extent 0 r) = blockReading [t] r read (extent 0 r) := by
  have hcovers := covers_extent 0 r
  cases he : extent 0 r with
  | statement prelude rest =>
    rw [he] at hcovers
    obtain ⟨u, rfl⟩ := hcovers
    simp [blockRule, blockReading]
  | unended prelude =>
    rw [he] at hcovers
    obtain rfl : r = prelude := hcovers
    simp [blockRule, blockReading]
  | unclosed prelude => rfl
  | block prelude body rest => rfl

theorem skipBlock_lands (h : At tokens pos r) {i : Nat}
    (hend : endOf pos (extent 0 r) = .block i) :
    ∃ next, skipBlock tokens i = .ok next ∧ At tokens next (extent 0 r).rest := by
  have hcovers := covers_extent 0 r
  cases he : extent 0 r with
  | statement prelude rest => simp [he, endOf] at hend
  | unended prelude => simp [he, endOf] at hend
  | unclosed prelude =>
    rw [he] at hcovers
    obtain ⟨u, rfl, hu⟩ := hcovers
    obtain rfl : pos + prelude.length = i := by simpa [he, endOf] using hend
    exact ⟨tokens.length, by simp [skipBlock, closingBrace_eq h.add, hu], .stop tokens⟩
  | block prelude body rest =>
    rw [he] at hcovers
    obtain ⟨u, rfl, hu⟩ := hcovers
    obtain rfl : pos + prelude.length = i := by simpa [he, endOf] using hend
    exact ⟨_, by simp [skipBlock, closingBrace_eq h.add, hu], (h.add.next.group hu).2⟩

end Block

/-! ### Rules -/

theorem mapM_chain (l : SelectorList) : (l.map ComplexSelector.parts).mapM chain = .ok l := by
  induction l with
  | nil => rfl
  | cons s l ih =>
    rw [List.map_cons, List.mapM_cons, chain_parts, ih]
    rfl

theorem importPrelude_eq (ts : List Token) : importPrelude ts = ofOption (importPrelude? ts) := by
  unfold importPrelude importPrelude?
  rcases ts with _ | ⟨t, r⟩
  · rfl
  · cases t with
    | url href | string href =>
      simp only [mediaList_eq]
      cases r.any Token.isBad <;> rfl
    | _ => rfl

/-- The reading of a style rule with a block. -/
def styleReading (prelude body : List Token) : Reading :=
  match SelectorList.ofTokens? prelude with
  | some selectors =>
    let (declarations, dropped) := Declaration.listOfTokens body
    ⟨some (.style selectors declarations), dropped⟩
  | none => .none .invalidSelector prelude

theorem styleRuleOf_eq (prelude body : List Token) :
    styleRuleOf prelude body = .ok (styleReading prelude body) := by
  rw [styleRuleOf, selectorList_eq, attempt_ofOption, ok_bind, styleReading]
  cases SelectorList.ofTokens? prelude with
  | none => simp [dropped_eq, Reading.none]
  | some selectors => simp only [Option.map_some, declarations_eq, ok_bind, mapM_chain]

theorem fontFaceRuleOf_eq (prelude body : List Token) :
    fontFaceRuleOf prelude body = .ok (fontFaceRule prelude body) := by
  rw [fontFaceRuleOf, fontFaceRule, declarations_eq, dropped_eq]
  split <;> rfl

theorem pageRuleOf_eq (prelude body : List Token) :
    pageRuleOf prelude body = .ok (pageRule prelude body) := by
  rw [pageRuleOf, pageRule, declarations_eq, text_eq]
  simp

/-- Whether the rules of the blocks that tokens can hold are read. -/
def ReadsRules (tokens : List Token)
    (inner : List Token → Checked (List RuleSource × List Dropped)) : Prop :=
  ∀ body, body.length < tokens.length → inner body = .ok (readRules false false body)

section Rule
variable {tokens r : List Token} {t : Token} {start stop : Nat}
  {inner : List Token → Checked (List RuleSource × List Dropped)}

theorem qualifiedRule_lands (h : At tokens start r) :
    Lands tokens (qualifiedRule tokens start) (styleRule r (extent 0 r), (extent 0 r).rest) := by
  have hstyle : styleRule r (extent 0 r) = blockReading [] r styleReading (extent 0 r) := by
    cases extent 0 r <;> rfl
  rw [hstyle]
  exact blockRuleAt_lands [] h fun prelude body _ => styleRuleOf_eq prelude body

theorem importAt_eq {prelude : List Token} (h : slice tokens start stop = .ok prelude) (next : Nat)
    (allowed : Bool) (ts : List Token) : importAt tokens start stop next allowed =
      .ok (importRule ts allowed (.unended prelude), next) := by
  simp only [importAt, h, ok_bind, trim_eq, failure_eq, importPrelude_eq, attempt_ofOption,
    importRule]
  split
  · rfl
  · cases importPrelude? (trimBlanks prelude) <;> rfl

/-- A block makes an import invalid, and is skipped. -/
theorem failure_block_lands (h : At tokens start (t :: r)) {prelude : List Token}
    (hend : endOf (start + 1) (extent 0 r) = .block (start + 1 + prelude.length))
    (hr : prelude <+: r) (cause : DropCause) :
    Lands tokens (do
        failure cause (← slice tokens start (start + 1 + prelude.length))
          (← skipBlock tokens (start + 1 + prelude.length)))
      (.none cause ((t :: r).take (prelude.length + 1)), (extent 0 r).rest) := by
  obtain ⟨next, hskip, hnext⟩ := skipBlock_lands h.next hend
  obtain ⟨u, rfl⟩ := hr
  have hslice : slice tokens start (start + 1 + prelude.length) = .ok (t :: prelude) := by
    rw [Nat.add_assoc, Nat.add_comm 1]
    exact (show At tokens start ((t :: prelude) ++ u) from h).slice
  simp only [hslice, hskip, ok_bind, failure_eq, List.take_succ_cons, List.take_left]
  exact .of_at hnext _

theorem import_lands (h : At tokens start (t :: r)) (allowed : Bool) :
    Lands tokens (atRuleAt inner tokens start "import" allowed)
      (importRule (t :: r) allowed (extent 0 r), (extent 0 r).rest) := by
  have hcovers := covers_extent 0 r
  have hblock := @failure_block_lands tokens r t start h
  simp only [atRuleAt, h.next.drop, preludeEnd_eq]
  cases he : extent 0 r with
  | statement prelude rest =>
    rw [he] at hcovers
    obtain ⟨u, rfl⟩ := hcovers
    simp only [endOf, importAt_eq h.next.slice _ _ (t :: (prelude ++ u :: rest))]
    exact .of_at h.next.add.next _
  | unended prelude =>
    rw [he] at hcovers
    obtain rfl : r = prelude := hcovers
    simp only [endOf, importAt_eq h.next.slice_rest _ _ (t :: r)]
    exact .of_at (.stop tokens) _
  | unclosed prelude =>
    rw [he] at hcovers hblock
    obtain ⟨u, rfl, -⟩ := hcovers
    exact hblock rfl (List.prefix_append _ _) _
  | block prelude body rest =>
    rw [he] at hcovers hblock
    obtain ⟨u, rfl, -⟩ := hcovers
    exact hblock rfl (List.prefix_append _ _) _

theorem media_lands (h : At tokens start (t :: r))
    (hinner : ReadsRules tokens inner) :
    Lands tokens (blockRuleAt tokens start (start + 1) (mediaRuleOf inner))
      (blockRule (t :: r) (fun prelude _ =>
        ⟨some (.media (.ofTokens prelude) (readRules false false (extent 0 r).body).1),
          (readRules false false (extent 0 r).body).2⟩) (extent 0 r), (extent 0 r).rest) := by
  have hread : blockRule (t :: r) (fun prelude _ =>
        ⟨some (.media (.ofTokens prelude) (readRules false false (extent 0 r).body).1),
          (readRules false false (extent 0 r).body).2⟩) (extent 0 r) =
      blockReading [t] r (fun prelude body =>
        ⟨some (.media (.ofTokens prelude) (readRules false false body).1),
          (readRules false false body).2⟩) (extent 0 r) := by
    rw [blockRule_eq]
    cases extent 0 r <;> rfl
  rw [hread]
  exact blockRuleAt_lands [t] h fun prelude body hbody => by
    simp only [mediaRuleOf, mediaList_eq, ok_bind, hinner body hbody]

theorem unknown_lands (h : At tokens start (t :: r)) :
    Lands tokens (match endOf (start + 1) (extent 0 r) with
        | .statement i => .ok (⟨none, []⟩, i + 1)
        | .unended => .ok (⟨none, []⟩, tokens.length)
        | .block opening => do .ok (⟨none, []⟩, ← skipBlock tokens opening))
      ((⟨none, []⟩ : Reading), (extent 0 r).rest) := by
  have hcovers := covers_extent 0 r
  cases hend : endOf (start + 1) (extent 0 r) with
  | block i =>
    obtain ⟨next, hskip, hnext⟩ := skipBlock_lands h.next hend
    simp only [hskip]
    exact .of_at hnext _
  | statement i =>
    cases he : extent 0 r with
    | statement prelude rest =>
      rw [he] at hcovers hend
      obtain ⟨u, rfl⟩ := hcovers
      obtain rfl : start + 1 + prelude.length = i := PreludeEnd.statement.inj hend
      exact .of_at h.next.add.next _
    | _ => simp [he, endOf] at hend
  | unended =>
    cases he : extent 0 r with
    | unended prelude => exact .of_at (.stop tokens) _
    | _ => simp [he, endOf] at hend

theorem atRuleAt_lands (h : At tokens start (t :: r))
    (hinner : ReadsRules tokens inner)
    (name : String) (allowed : Bool) :
    Lands tokens (atRuleAt inner tokens start name allowed)
      (atRule name allowed (t :: r)
        (if name == "media" then readRules false false (extent 0 r).body else ([], []))
        (extent 0 r), (extent 0 r).rest) := by
  unfold atRule
  split
  · exact import_lands h allowed
  · exact media_lands h hinner
  · rw [blockRule_eq]
    exact blockRuleAt_lands [t] h fun prelude body _ => fontFaceRuleOf_eq prelude body
  · rw [blockRule_eq]
    exact blockRuleAt_lands [t] h fun prelude body _ => pageRuleOf_eq prelude body
  · rename_i himport hmedia hfontFace hpage
    have hend := preludeEnd_eq 0 (start + 1) r
    unfold atRuleAt
    split
    · exact (himport rfl).elim
    · exact (hmedia rfl).elim
    · exact (hfontFace rfl).elim
    · exact (hpage rfl).elim
    · rw [h.next.drop, hend]
      exact unknown_lands h

end Rule

/-! ### Rules one after the other -/

abbrev Rules := List RuleSource × List Dropped

/-- Adds what came of a construct. -/
def noted (seen : Rules) (reading : Reading) : Rules :=
  (seen.1 ++ reading.rule.toList, seen.2 ++ reading.dropped)

/-- Reads one construct of a list of rules, and keeps track of whether imports are allowed after
it. -/
def ruleStep (inner : List Token → Checked Rules) (topLevel : Bool) (tokens : List Token) :
    (Rules × Bool) × Nat → Checked (((Rules × Bool) × Nat) ⊕ Rules)
  | ((seen, importsAllowed), pos) => do
    if pos < tokens.length then
      let t ← index tokens pos
      if t.isBlank || (topLevel && (t == .markupOpen || t == .markupClose)) then
        .ok (.inl ((seen, importsAllowed), pos + 1))
      else if t == .closeBrace || t == .semicolon then
        let (reading, next) ←
          failure .unexpectedToken (← slice tokens pos (pos + 1)) (pos + 1)
        .ok (.inl ((noted seen reading, importsAllowed), next))
      else match t with
        | .atKeyword name =>
          let name := Text.lower name
          let (reading, next) ← atRuleAt inner tokens pos name importsAllowed
          .ok (.inl ((noted seen reading, importsAllowed && keepsImports name), next))
        | _ =>
          let (reading, next) ← qualifiedRule tokens pos
          .ok (.inl ((noted seen reading, importsAllowed && reading.rule.isNone), next))
    else .ok (.inr seen)

/-- A list of rules in which media rules stand as deep in one another as given at most. -/
def ruleList : Nat → Bool → List Token → Checked Rules
  | 0, _, _ => .error (.fault .endless)
  | nesting + 1, topLevel, tokens =>
    loop (ruleStep (ruleList nesting false) topLevel tokens) (tokens.length + 1)
      ((([], []), topLevel), 0)

/-! ### Readers of texts -/

def stylesheet (input : String) : Checked SheetSource := do
  let tokens ← tokenize input
  let (rules, dropped) ← ruleList (tokens.length + 1) true tokens
  .ok ⟨rules, dropped⟩

/-- The construct at the start of trimmed tokens, and the position after it. -/
def firstRule (tokens : List Token) : Checked (Reading × Nat) := do
  match ← index tokens 0 with
  | .atKeyword name =>
    atRuleAt (ruleList tokens.length false) tokens 0 (Text.lower name) true
  | _ => qualifiedRule tokens 0

def rule (input : String) : Checked (Except SyntaxError RuleSource) := do
  let tokens ← trim (← tokenize input)
  if tokens.isEmpty then .ok (.error (.emptyRule (Text.trim input)))
  else
    let (reading, next) ← firstRule tokens
    match reading.rule, reading.dropped.getLast? with
    | some rule, _ =>
      let rest ← trim (← slice tokens (min next tokens.length) tokens.length)
      if rest.isEmpty then .ok (.ok rule) else .ok (.error (.trailingContent (Text.trim input)))
    | none, some d =>
      if d.cause == .invalidSelector then .ok (.error (.invalidSelector d.snippet))
      else .ok (.error (.malformedRule (Text.trim input) d.cause))
    | none, none => .ok (.error (.emptyRule (Text.trim input)))

def declarationBlock (input : String) : Checked (List Declaration) := do
  .ok (← declarations (← tokenize input)).1

/-- A value on its own; none if the text is not valid for one. -/
def value (input : String) : Checked (Option String) := do
  let tokens ← trim (← tokenize input)
  if tokens.isEmpty || !tokens.all Declaration.allowsToken || tokens.contains (.delim '!') then
    .ok none
  else .ok (some (String.ofList (← text tokens)))

def selectors (input : String) : Checked (Except SyntaxError (List (List Link))) := do
  match ← attempt (selectorList (← tokenize input)) with
  | some l => .ok (.ok l)
  | none => .ok (.error (.invalidSelector (Text.trim input)))

def mediaQueries (input : String) : Checked MediaList := do mediaList (← tokenize input)

def componentOf (input : String) : Checked Component := do component (← trim (← tokenize input))

def components (input : String) : Checked (List String) := do partTexts [] 0 (← tokenize input)

def colorOf (input : String) : Checked (Option Color) := do
  attempt (color (← trim (← tokenize input)))

/-! ### Lists of rules -/

section List
variable {tokens r : List Token} {t : Token} {pos rounds : Nat} {topLevel allowed : Bool}
  {seen : Rules} {inner : List Token → Checked Rules}

theorem noted_before (seen : Rules) (reading : Reading) (after : Rules) :
    ((noted seen reading).1 ++ after.1, (noted seen reading).2 ++ after.2) =
      (seen.1 ++ (reading.before after).1, seen.2 ++ (reading.before after).2) := by
  simp [noted, Reading.before]

theorem ruleStep_skip (h : At tokens pos (t :: r))
    (hskip : t.isBlank || (topLevel && (t == .markupOpen || t == .markupClose))) :
    ruleStep inner topLevel tokens ((seen, allowed), pos) =
      .ok (.inl ((seen, allowed), pos + 1)) := by
  simp only [ruleStep, h.lt, if_true, h.index, ok_bind, hskip]

theorem ruleStep_stray (h : At tokens pos (t :: r)) (hstray : t = .closeBrace ∨ t = .semicolon) :
    ruleStep inner topLevel tokens ((seen, allowed), pos) =
      .ok (.inl ((noted seen (.none .unexpectedToken [t]), allowed), pos + 1)) := by
  have hslice : slice tokens pos (pos + 1) = .ok [t] :=
    (show At tokens pos ([t] ++ r) from h).slice
  rcases hstray with rfl | rfl <;>
    simp [ruleStep, h.lt, h.index, hslice, failure_eq, Token.isBlank]

theorem ruleStep_atKeyword {name : String} (h : At tokens pos (.atKeyword name :: r))
    (hinner : ReadsRules tokens inner)
    (topLevel allowed : Bool) (seen : Rules) :
    ∃ next, At tokens next (extent 0 r).rest ∧
      ruleStep inner topLevel tokens ((seen, allowed), pos) =
        .ok (.inl ((noted seen (atRule (Text.lower name) allowed (.atKeyword name :: r)
          (if Text.lower name == "media" then readRules false false (extent 0 r).body else ([], []))
          (extent 0 r)), allowed && keepsImports (Text.lower name)), next)) := by
  obtain ⟨next, hrule, hnext⟩ := atRuleAt_lands h hinner (Text.lower name) allowed
  refine ⟨next, hnext, ?_⟩
  simp [ruleStep, h.lt, h.index, hrule, Token.isBlank]

theorem ruleStep_style (inner : List Token → Checked Rules) (h : At tokens pos (t :: r))
    (hskip : ¬ (t.isBlank || (topLevel && (t == .markupOpen || t == .markupClose))))
    (hstray : ¬ (t = .closeBrace ∨ t = .semicolon)) (hat : ¬ ∃ name, t = .atKeyword name)
    (allowed : Bool) (seen : Rules) :
    ∃ next, At tokens next (extent 0 (t :: r)).rest ∧
      ruleStep inner topLevel tokens ((seen, allowed), pos) =
        .ok (.inl ((noted seen (styleRule (t :: r) (extent 0 (t :: r))),
          allowed && (styleRule (t :: r) (extent 0 (t :: r))).rule.isNone), next)) := by
  obtain ⟨next, hrule, hnext⟩ := qualifiedRule_lands h
  refine ⟨next, hnext, ?_⟩
  have hends : (t == .closeBrace || t == .semicolon) = false := by simpa using hstray
  simp only [ruleStep, h.lt, if_true, h.index, ok_bind, hskip, hends, Bool.false_eq_true, if_false]
  split
  · exact absurd ⟨_, rfl⟩ hat
  · simp [hrule]

theorem loop_rules (h : At tokens pos r) (hrounds : r.length < rounds)
    (hinner : ReadsRules tokens inner)
    (seen : Rules) (allowed : Bool) :
    loop (ruleStep inner topLevel tokens) rounds ((seen, allowed), pos) =
      .ok (seen.1 ++ (readRules topLevel allowed r).1,
        seen.2 ++ (readRules topLevel allowed r).2) := by
  induction hn : r.length using Nat.strong_induction_on generalizing r pos rounds seen allowed with
  | _ n ih =>
  cases r with
  | nil =>
    rw [loop_inr hrounds (b := seen) (by simp [ruleStep, h.eq_length])]
    simp [readRules]
  | cons t r =>
    simp only [List.length_cons] at hrounds hn
    by_cases hskip : t.isBlank || (topLevel && (t == .markupOpen || t == .markupClose))
    · rw [loop_inl _ (by omega) (ruleStep_skip h hskip), readRules_skip hskip,
        ih r.length (by omega) h.next (by omega) seen allowed rfl]
    · by_cases hstray : t = .closeBrace ∨ t = .semicolon
      · rw [loop_inl _ (by omega) (ruleStep_stray h hstray), readRules_stray hstray, ← noted_before,
          ih r.length (by omega) h.next (by omega) _ allowed rfl]
      · by_cases hat : ∃ name, t = .atKeyword name
        · obtain ⟨name, rfl⟩ := hat
          have hle := extent_length_le 0 r
          obtain ⟨next, hnext, hstep⟩ := ruleStep_atKeyword h hinner topLevel allowed seen
          rw [loop_inl _ (by omega) hstep, readRules_atKeyword, ← noted_before,
            ih (extent 0 r).rest.length (by omega) hnext (by omega) _ _ rfl]
        · have hlt := extent_rest_length_lt t r
          rw [List.length_cons] at hlt
          obtain ⟨next, hnext, hstep⟩ := ruleStep_style inner h hskip hstray hat allowed seen
          rw [loop_inl _ (by omega) hstep, readRules_style hskip hstray hat, ← noted_before,
            ih (extent 0 (t :: r)).rest.length (by omega) hnext (by omega) _ _ rfl]

/-- The block of a media rule is shorter than the tokens it stands in. -/
theorem ruleList_eq {nesting : Nat} (h : tokens.length < nesting) (topLevel : Bool) :
    ruleList nesting topLevel tokens = .ok (readRules topLevel topLevel tokens) := by
  induction nesting generalizing tokens topLevel with
  | zero => omega
  | succ nesting ih =>
    rw [ruleList, loop_rules (.start tokens) (Nat.lt_succ_self _)
      (fun body hbody => ih (by omega) false) ([], []) topLevel]
    simp

theorem firstRule_lands (t : Token) (r : List Token) :
    Lands (t :: r) (firstRule (t :: r)) (readOne (t :: r)) := by
  have hstart := At.start (t :: r)
  rw [firstRule, hstart.index, ok_bind]
  cases t with
  | atKeyword name => exact atRuleAt_lands hstart (fun body hbody => ruleList_eq hbody false) _ true
  | _ => exact qualifiedRule_lands hstart

end List

/-! ### Texts -/

theorem rule_eq (input : String) : rule input = .ok (RuleSource.ofString input) := by
  simp only [rule, tokenize_eq, ok_bind, trim_eq, RuleSource.ofString]
  cases trimBlanks (WebStyle.tokenize input) with
  | nil => rfl
  | cons t r =>
    obtain ⟨next, hread, hnext⟩ := firstRule_lands t r
    simp only [List.isEmpty_cons, Bool.false_eq_true, if_false, hread, ok_bind,
      Nat.min_eq_left hnext.le, hnext.slice_rest]
    cases (readOne (t :: r)).1.rule with
    | some rule => cases (trimBlanks (readOne (t :: r)).2).isEmpty <;> rfl
    | none =>
      cases (readOne (t :: r)).1.dropped.getLast? with
      | none => rfl
      | some d => cases hd : d.cause == .invalidSelector <;> simp [hd]

theorem selectors_eq (input : String) : selectors input =
    .ok ((SelectorList.ofString input).map (·.map ComplexSelector.parts)) := by
  simp only [selectors, tokenize_eq, ok_bind, selectorList_eq, attempt_ofOption,
    SelectorList.ofString, SelectorList.ofString?]
  cases SelectorList.ofTokens? (WebStyle.tokenize input) <;> rfl

theorem value_eq (input : String) : value input = .ok (valueText? input) := by
  simp only [value, tokenize_eq, ok_bind, trim_eq, text_eq, valueText?, String.ofList_toList]
  split <;> rfl

/-- No index is out of range and no slice either, no counter goes below zero, no text is cut inside
of a character, no integer overflows, and no loop goes on without end: all readers of texts come to
a result, and it is the one of the readers that take tokens from lists. In each selector all parts
but the last have a combinator. -/
theorem readers_never_fault (input : String) :
    stylesheet input = .ok (SheetSource.ofString input) ∧
    rule input = .ok (RuleSource.ofString input) ∧
    declarationBlock input = .ok (Declaration.listOfString input) ∧
    value input = .ok (valueText? input) ∧
    selectors input = .ok ((SelectorList.ofString input).map (·.map ComplexSelector.parts)) ∧
    mediaQueries input = .ok (MediaList.ofString input) ∧
    componentOf input = .ok (Component.ofString input) ∧
    components input = .ok (splitComponents input) ∧
    colorOf input = .ok (Color.ofString? input) ∧
    ∀ s : ComplexSelector, s.parts.map (·.2) = s.links.map (some ·.1) ++ [none] := by
  refine ⟨?stylesheet, rule_eq input, ?declarations, value_eq input, selectors_eq input, ?media,
    ?component, ?components, ?color, ComplexSelector.parts_combinators⟩
  case stylesheet => simp only [stylesheet, tokenize_eq, ok_bind, ruleList_eq (Nat.lt_succ_self _),
    SheetSource.ofString, SheetSource.ofTokens]
  case declarations => simp only [declarationBlock, tokenize_eq, ok_bind, declarations_eq,
    Declaration.listOfString]
  case media => simp only [mediaQueries, tokenize_eq, ok_bind, mediaList_eq, MediaList.ofString]
  case component => simp only [componentOf, tokenize_eq, ok_bind, trim_eq, component_eq,
    Component.ofString]
  case components => simp only [components, tokenize_eq, ok_bind, partTexts_eq, List.nil_append,
    modifyHead_self, splitComponents]
  case color => simp only [colorOf, tokenize_eq, ok_bind, trim_eq, color_eq, attempt_ofOption,
    Color.ofString?]

end WebStyle.Cursor
