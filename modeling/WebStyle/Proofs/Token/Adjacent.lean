import Mathlib.Data.List.DropRight
import WebStyle.Proofs.Number.Printed
import WebStyle.Proofs.Token.Proper
/-!
Tokens that are printed side by side. A token that is not kept apart from the text after it may be
read as part of a longer one; where none is, a printed run of tokens is read back.
-/
set_option autoImplicit false

namespace WebStyle

open Lexer

variable {c : Char} {r s : List Char} {t : Token}

/-! ### What printing tells of a token -/

/-- What the text of a token tells: a number is told by its text, and a name after a number sign is
not known to be an identifier. -/
def Token.form : Token → Token × String
  | .number n => (.number ⟨none, true, 0, 0⟩, n.text)
  | .percentage n => (.percentage ⟨none, true, 0, 0⟩, n.text)
  | .dimension n unit => (.dimension ⟨none, true, 0, 0⟩ unit, n.text)
  | .hash name _ => (.hash name false, "")
  | t => (t, "")

/-- What the text of a run of tokens tells, apart from blanks. -/
def forms (ts : List Token) : List (Token × String) :=
  (ts.filter (!·.isBlank)).map Token.form

@[simp] theorem forms_nil : forms [] = [] := rfl

@[simp] theorem forms_blank (ts : List Token) : forms (.blank :: ts) = forms ts := rfl

theorem forms_cons (h : t.isBlank = false) (ts : List Token) :
    forms (t :: ts) = t.form :: forms ts := by
  simp [forms, h]

theorem forms_blank_cons (cs : List Char) : forms (tokens (' ' :: cs)) = forms (tokens cs) := by
  rcases tokens_blank_cons cs with h | h <;> rw [h]
  rfl

/-! ### What is taken for a part of what stands before it -/

/-- Whether a name that stands before a text goes on with it. -/
def continuesName (r : List Char) : Bool := r.head?.any isNameChar || startsEscape r

/-- Whether a number that stands before a text goes on with it. -/
def continuesNumber (r : List Char) : Bool :=
  r.head?.any Char.isDigit || (Numeral.readFraction? r).isSome || (Numeral.readExponent? r).isSome

namespace Token

/-- Whether a printed token and the text after it are read as something else. -/
def clings : Token → List Char → Bool
  | .ident s, r => continuesName r || r.head? == some '(' || (s == "--" && r.head? == some '>')
  | .atKeyword _, r | .hash _ _, r => continuesName r
  | .number _, r => continuesNumber r || startsName r || r.head? == some '%'
  | .dimension _ unit, r => continuesName r || continuesNumber (unit.toList ++ r)
  | .delim c, r => match c with
    | '#' => continuesName r
    | '@' => startsName r
    | '\\' => startsEscape ('\\' :: r)
    | '/' => r.head? == some '*'
    | '<' => ['!', '-', '-'].isPrefixOf r
    | '-' => Numeral.starts ('-' :: r) || ['-', '>'].isPrefixOf r || startsName ('-' :: r)
    | '+' => Numeral.starts ('+' :: r)
    | '.' => Numeral.starts ('.' :: r)
    | _ => false
  | _, _ => false

/-- Whether the text of a token is that of one token. Names after a number sign are printed without
the escapes that line ends need, and units without any. -/
def isWritable : Token → Bool
  | .hash s _ => s.toList.all fun c => c != '\n' && c != '\r' && c != '\x0C'
  | .dimension _ unit => startsName unit.toList && unit.toList.all isNameChar
  | .badString | .badUrl => false
  | _ => true

end Token

theorem readName_eq_nil (h : continuesName r = false) : readName r = ([], r) := by
  cases r with
  | nil => rw [readName]
  | cons c r =>
    obtain ⟨hname, hescape⟩ := Bool.or_eq_false_iff.1 h
    rw [readName]
    simp_all

theorem endsNumber_of_not_continues (h : continuesNumber r = false) : Numeral.EndsNumber r := by
  simp only [continuesNumber, Bool.or_eq_false_iff] at h
  obtain ⟨⟨hdigit, hfraction⟩, hexponent⟩ := h
  refine ⟨fun c hc => ?_, by simpa using hfraction, by simpa using hexponent⟩
  rw [Option.mem_def.1 hc] at hdigit
  simpa using hdigit

/-! ### Printed tokens that are read back -/

/-- Whether a text is read as a token of the given form, and what follows it. -/
def ReadsAs (cs : List Char) (t : Token) (r : List Char) : Prop :=
  ∃ t' : Token, t'.form = t.form ∧ t'.isBlank = false ∧ tokens cs = t' :: tokens r

theorem ReadsAs.forms {cs : List Char} (h : ReadsAs cs t r) :
    WebStyle.forms (tokens cs) = t.form :: WebStyle.forms (tokens r) := by
  obtain ⟨t', hform, hblank, hread⟩ := h
  rw [hread, forms_cons hblank, hform]

theorem ReadsAs.of_eq {cs : List Char} (hb : t.isBlank = false) (h : tokens cs = t :: tokens r) :
    ReadsAs cs t r := ⟨t, rfl, hb, h⟩

theorem readsAs_ident (hs : '\x00' ∉ s) (hne : s ≠ [])
    (hr : (Token.ident (String.ofList s)).clings r = false) :
    ReadsAs (Printer.name s ++ r) (.ident (String.ofList s)) r := by
  simp only [Token.clings, Bool.or_eq_false_iff, beq_eq_false_iff_ne] at hr
  obtain ⟨⟨hname, hparen⟩, hclose⟩ := hr
  refine .of_eq rfl (tokens_of_next? (next?_ident (startsName_printed hs hne r)
    (readName_printed hs (readName_eq_nil hname)) hparen ?_))
  rintro rfl heq
  rw [heq] at hclose
  exact absurd hclose (by decide)

theorem continuesName_paren (r : List Char) : continuesName ('(' :: r) = false := by
  simp [continuesName, startsEscape]
  decide

theorem readsAs_function (hs : '\x00' ∉ s) (hne : s ≠ [])
    (hurl : Text.sameIgnoringCase (String.ofList s) "url" = false) (r : List Char) :
    ReadsAs (Printer.name s ++ '(' :: r) (.function (String.ofList s)) r :=
  .of_eq rfl (tokens_function (startsName_printed hs hne _)
    (readName_printed hs (readName_eq_nil (continuesName_paren r))) hurl)

theorem tokens_atKeyword {cs : List Char} (hstart : startsName cs) (h : readName cs = (s, r)) :
    tokens ('@' :: cs) = .atKeyword (String.ofList s) :: tokens r := by
  have hnumber : Numeral.starts ('@' :: cs) = false := by
    simp [Numeral.starts, Numeral.readSign]
  exact tokens_cons (by decide) (by decide) (by simp [readToken, hnumber, hstart, h])

theorem readsAs_atKeyword (hs : '\x00' ∉ s) (hne : s ≠ []) (hr : continuesName r = false) :
    ReadsAs ('@' :: (Printer.name s ++ r)) (.atKeyword (String.ofList s)) r :=
  .of_eq rfl (tokens_atKeyword (startsName_printed hs hne r)
    (readName_printed hs (readName_eq_nil hr)))

/-! ### Names after a number sign -/

/-- How a character is printed in a name after a number sign: as it is, or as an escape. -/
theorem hashChar_cases (h : c ≠ '\n') :
    Printer.hashChar c = [c] ∧ isNameChar c ∨ IsEscapeOf (Printer.hashChar c) c := by
  simp only [Printer.hashChar]
  split
  · rename_i hname
    exact .inl ⟨rfl, hname⟩
  · rename_i hname
    exact .inr (isEscapeOf_backslash h fun hhex => hname (isNameChar_of_isHexDigit hhex))

theorem readName_hashChars (hs : '\n' ∉ s) (hr : readName r = ([], r)) :
    readName (s.flatMap Printer.hashChar ++ r) = (s, r) := by
  induction s with
  | nil => exact hr
  | cons c s ih =>
    have ih := ih fun h => hs (List.mem_cons_of_mem c h)
    rw [List.flatMap_cons, List.append_assoc]
    rcases hashChar_cases fun h => hs (h ▸ List.mem_cons_self) with ⟨heq, hname⟩ | hescape
    · rw [heq, List.singleton_append, readName_cons hname, ih]
    · rw [hescape.readName, ih]

theorem continuesName_hashChars (hs : '\n' ∉ s) (hne : s ≠ []) (r : List Char) :
    continuesName (s.flatMap Printer.hashChar ++ r) := by
  cases s with
  | nil => exact absurd rfl hne
  | cons c s =>
    rw [List.flatMap_cons, List.append_assoc]
    rcases hashChar_cases fun h => hs (h ▸ List.mem_cons_self) with ⟨heq, hname⟩ | hescape
    · simp [heq, continuesName, hname]
    · simp [continuesName, hescape.starts]

theorem lineEnd_notMem {name : String} {isId : Bool}
    (hwritable : (Token.hash name isId).isWritable) : '\n' ∉ name.toList := fun hmem => by
  simpa using List.all_eq_true.1 hwritable _ hmem

theorem readsAs_of_continuesName {cs : List Char} (hcontinues : continuesName cs)
    (h : readName cs = (s, r)) (isId : Bool) :
    ReadsAs ('#' :: cs) (.hash (String.ofList s) isId) r := by
  refine ⟨.hash (String.ofList s) (startsName cs), rfl, rfl,
    tokens_cons (by decide) (by decide) ?_⟩
  rw [continuesName] at hcontinues
  simp [readToken, hcontinues, h]

theorem readsAs_hash (hs : '\n' ∉ s) (hne : s ≠ []) (isId : Bool) (hr : continuesName r = false) :
    ReadsAs ('#' :: (s.flatMap Printer.hashChar ++ r)) (.hash (String.ofList s) isId) r :=
  readsAs_of_continuesName (continuesName_hashChars hs hne r)
    (readName_hashChars hs (readName_eq_nil hr)) isId

/-! ### Addresses -/

theorem readUrl_printed (hs : '\x00' ∉ s) (r : List Char) :
    readUrl (Printer.string s ++ ')' :: r) = (some s, r) := by
  have hstring := readString_printed hs (')' :: r)
  have hend : endUrl s (')' :: r) = (some s, r) := by
    simp [endUrl, List.dropWhile_cons_of_neg, Text.isAsciiBlank]
  rw [Printer.string, List.append_assoc, List.cons_append, readUrl,
    List.dropWhile_cons_of_neg (by decide)]
  simp [hstring, hend]

theorem readsAs_url (hs : '\x00' ∉ s) (r : List Char) :
    ReadsAs ('u' :: 'r' :: 'l' :: '(' :: (Printer.string s ++ ')' :: r)) (.url (String.ofList s))
      r := by
  have hread := readUrl_printed hs r
  generalize Printer.string s ++ ')' :: r = cs at hread ⊢
  have hname : readName ('u' :: 'r' :: 'l' :: '(' :: cs) = (['u', 'r', 'l'], '(' :: cs) :=
    readName_of_all (List.all_eq_true.1 (show ['u', 'r', 'l'].all isNameChar by decide))
      (readName_eq_nil (continuesName_paren cs))
  refine .of_eq rfl (tokens_cons (by decide) (by decide) ?_)
  rw [readToken_of_startsName (startsName_cons (by decide)) (by simp), readNamed, hname]
  have hurl : Text.sameIgnoringCase (String.ofList ['u', 'r', 'l']) "url" = true := by decide
  simp only [hurl, ↓reduceIte, hread]

/-! ### Numbers -/

/-- A number starts with a sign, a point or a digit. -/
theorem not_starts_of_ne (hplus : c ≠ '+') (hminus : c ≠ '-') (hdot : c ≠ '.')
    (hdigit : c.isDigit = false) (r : List Char) : Numeral.starts (c :: r) = false := by
  have hsign : Numeral.readSign (c :: r) = (none, c :: r) := by
    simp [Numeral.readSign, hplus, hminus]
  simp [Numeral.starts, hsign, hdot, hdigit]

/-- What starts with a number is read as one. -/
theorem tokens_of_starts {cs : List Char} (hstarts : Numeral.starts cs)
    (h : readNumeric cs = (t, r)) : tokens cs = t :: tokens r := by
  cases cs with
  | nil => simp [Numeral.starts, Numeral.readSign] at hstarts
  | cons c cs =>
    have hne : ∀ d : Char, d ≠ '+' ∧ d ≠ '-' ∧ d ≠ '.' ∧ d.isDigit = false → c ≠ d := by
      rintro d ⟨hplus, hminus, hdot, hdigit⟩ rfl
      rw [not_starts_of_ne hplus hminus hdot hdigit] at hstarts
      exact Bool.false_ne_true hstarts
    refine tokens_cons ?_ (hne '/' (by decide)) ?_
    · simp [Text.isAsciiBlank, hne ' ' (by decide), hne '\t' (by decide), hne '\n' (by decide),
        hne '\r' (by decide), hne '\x0C' (by decide)]
    · simp [readToken, hne '"' (by decide), hne '\'' (by decide), hne '#' (by decide), hstarts, h]

theorem readsAs_number (n : Numeral) (hr : (Token.number n).clings r = false) :
    ReadsAs (n.text.toList ++ r) (.number n) r := by
  simp only [Token.clings, Bool.or_eq_false_iff, beq_eq_false_iff_ne] at hr
  obtain ⟨⟨hnumber, hname⟩, hpercent⟩ := hr
  obtain ⟨hstarts, n', hread, htext⟩ := n.read_text (endsNumber_of_not_continues hnumber)
  refine ⟨.number n', by rw [Token.form, htext, Token.form], rfl, tokens_of_starts hstarts ?_⟩
  rw [readNumeric, hread]
  simp only [hname, Bool.false_eq_true, ↓reduceIte]
  split
  · exact absurd rfl hpercent
  · rfl

theorem readsAs_percentage (n : Numeral) (r : List Char) :
    ReadsAs (n.text.toList ++ '%' :: r) (.percentage n) r := by
  have hends : Numeral.EndsNumber ('%' :: r) := ⟨by rintro c ⟨⟩; decide, rfl, rfl⟩
  obtain ⟨hstarts, n', hread, htext⟩ := n.read_text hends
  refine ⟨.percentage n', by rw [Token.form, htext, Token.form], rfl, tokens_of_starts hstarts ?_⟩
  have hname : startsName ('%' :: r) = false := by
    simp [startsName]
    decide
  simp [readNumeric, hread, hname]

theorem readsAs_dimension (n : Numeral) {unit : String}
    (hunit : (Token.dimension n unit).isWritable) (hr : (Token.dimension n unit).clings r = false) :
    ReadsAs (n.text.toList ++ (unit.toList ++ r)) (.dimension n unit) r := by
  simp only [Token.isWritable, Bool.and_eq_true, List.all_eq_true] at hunit
  obtain ⟨hstart, hnames⟩ := hunit
  obtain ⟨hname, hnumber⟩ := Bool.or_eq_false_iff.1 hr
  obtain ⟨hstarts, n', hread, htext⟩ := n.read_text (endsNumber_of_not_continues hnumber)
  refine ⟨.dimension n' unit, by rw [Token.form, htext, Token.form], rfl,
    tokens_of_starts hstarts ?_⟩
  rw [readNumeric, hread]
  simp [startsName_extend hstart, readName_of_all hnames (readName_eq_nil hname)]

/-! ### Characters that are tokens -/

theorem skipSpace_slash (hr : r.head? ≠ some '*') (seen : Bool) :
    skipSpace seen ('/' :: r) = (seen, '/' :: r) := by
  rw [skipSpace.eq_def]
  split
  · rename_i heq
    obtain ⟨-, rfl⟩ := List.cons.inj heq
    exact absurd rfl hr
  · rename_i heq
    obtain ⟨rfl, rfl⟩ := List.cons.inj heq
    rw [if_neg (by decide)]
  · rename_i heq
    exact absurd heq (List.cons_ne_nil _ r)

section

variable (h : IsLone c) (hr : (Token.delim c).clings r = false)
include h hr

theorem not_starts_of_isLone : Numeral.starts (c :: r) = false := by
  by_cases hplus : c = '+'
  · subst hplus
    simpa [Token.clings] using hr
  by_cases hminus : c = '-'
  · subst hminus
    simp only [Token.clings, Bool.or_eq_false_iff] at hr
    exact hr.1.1
  by_cases hdot : c = '.'
  · subst hdot
    simpa [Token.clings] using hr
  exact not_starts_of_ne hplus hminus hdot h.notDigit r

theorem not_startsName_of_isLone : startsName (c :: r) = false := by
  refine Bool.eq_false_iff.2 fun hstart => ?_
  rcases startsName_cases hstart with ⟨rfl, -⟩ | rfl | hc
  · simp only [Token.clings, Bool.or_eq_false_iff] at hr
    exact Bool.false_ne_true (hr.2.symm.trans hstart)
  · simp only [Token.clings] at hr
    exact Bool.false_ne_true (hr.symm.trans hstart)
  · exact Bool.false_ne_true (h.notNameStart.symm.trans hc)

theorem readToken_of_isLone : readToken c r = (.delim c, r) := by
  have hstarts := not_starts_of_isLone h hr
  have hname := not_startsName_of_isLone h hr
  have hhash : c = '#' → (r.head?.any isNameChar || startsEscape r) = false := by
    rintro rfl
    exact hr
  have hat : c = '@' → startsName r = false := by
    rintro rfl
    exact hr
  have hclose : (c == '-' && ['-', '>'].isPrefixOf r) = false := by
    rw [Bool.and_eq_false_imp, beq_iff_eq]
    rintro rfl
    simp only [Token.clings, Bool.or_eq_false_iff] at hr
    exact hr.1.2
  have hopen : (c == '<' && ['!', '-', '-'].isPrefixOf r) = false := by
    rw [Bool.and_eq_false_imp, beq_iff_eq]
    rintro rfl
    exact hr
  rw [readToken, if_neg (by simpa using h.notQuote), hclose, hopen, hstarts, hname, h.single_eq]
  by_cases hc : c = '#'
  · simp [hc, hhash hc]
  · by_cases hc' : c = '@'
    · simp [hc', hat hc']
    · simp [hc, hc']

theorem readsAs_delim : ReadsAs (c :: r) (.delim c) r := by
  refine .of_eq rfl (tokens_of_next? ?_)
  have hskip : skipSpace false (c :: r) = (false, c :: r) := by
    by_cases hslash : c = '/'
    · subst hslash
      exact skipSpace_slash (by simpa [Token.clings] using hr) false
    · exact skipSpace_cons h.notBlank hslash false
  rw [next?, hskip]
  simp only [readToken_of_isLone h hr]

end

theorem tokens_markupOpen (r : List Char) :
    tokens ('<' :: '!' :: '-' :: '-' :: r) = .markupOpen :: tokens r :=
  tokens_cons (by decide) (by decide) (by simp [readToken, not_starts_of_ne])

theorem tokens_markupClose (r : List Char) :
    tokens ('-' :: '-' :: '>' :: r) = .markupClose :: tokens r := by
  have hnumber : Numeral.starts ('-' :: '-' :: '>' :: r) = false := by
    simp [Numeral.starts, Numeral.readSign]
  exact tokens_cons (by decide) (by decide) (by simp [readToken, hnumber])

/-! ### Any token -/

theorem toList_ne_nil {name : String} (h : name ≠ "") : name.toList ≠ [] :=
  mt String.toList_eq_nil_iff.1 h

/-- A token that is printed is read back, if nothing that follows clings to it. -/
theorem readsAs_chars (hproper : t.IsProper) (hwritable : t.isWritable) (hblank : t.isBlank = false)
    (hr : t.clings r = false) : ReadsAs (t.chars ++ r) t r := by
  cases t with
  | ident name =>
    have := readsAs_ident (s := name.toList) hproper.2 (toList_ne_nil hproper.1) (by simpa using hr)
    simpa [Token.chars] using this
  | function name =>
    have := readsAs_function (s := name.toList) hproper.1.2 (toList_ne_nil hproper.1.1)
      (by simpa using hproper.2) r
    simpa [Token.chars] using this
  | atKeyword name =>
    have := readsAs_atKeyword (s := name.toList) hproper.2 (toList_ne_nil hproper.1) hr
    simpa [Token.chars] using this
  | hash name isId =>
    have := readsAs_hash (lineEnd_notMem hwritable) (toList_ne_nil hproper.1) isId hr
    simpa [Token.chars] using this
  | string value =>
    exact .of_eq rfl (by simpa [Token.chars] using tokens_string hproper r)
  | badString => cases hwritable
  | url address =>
    have := readsAs_url hproper r
    simpa [Token.chars] using this
  | badUrl => cases hwritable
  | number n => exact readsAs_number n hr
  | percentage n =>
    have := readsAs_percentage n r
    simpa [Token.chars] using this
  | dimension n unit =>
    have := readsAs_dimension n hwritable hr
    simpa [Token.chars] using this
  | blank => cases hblank
  | delim c => exact readsAs_delim hproper hr
  | markupOpen => exact .of_eq rfl (by simpa [Token.chars] using tokens_markupOpen r)
  | markupClose => exact .of_eq rfl (by simpa [Token.chars] using tokens_markupClose r)
  | semicolon | openBrace | closeBrace =>
    exact .of_eq rfl (tokens_cons (by decide) (by decide) rfl)
  | _ => exact .of_eq rfl (tokens_single (by decide) r)

end WebStyle
