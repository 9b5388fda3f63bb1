import WebStyle.Proofs.Selector.Formula
import WebStyle.Selector.Parser
/-!
The tokens that printed selectors are read as.
-/
set_option autoImplicit false

namespace WebStyle

open Lexer

variable {r : List Char}

/-! ### What printing relies on -/

/-- Whether a text can be printed as an identifier. -/
structure IsName (s : String) : Prop where
  nonempty : s ≠ ""
  noNul : '\x00' ∉ s.toList

/-- Whether a text is the name of a type or of an attribute: its letters are lowered. -/
structure IsLowerName (s : String) : Prop extends IsName s where
  lower : Text.lower s = s

def AttributeTest.Valid : AttributeTest → Prop
  | .present name => IsLowerName name
  | .compares name _ value _ => IsLowerName name ∧ '\x00' ∉ value.toList

namespace PseudoClass

/-- The name that a pseudo-class is printed with. -/
def name : PseudoClass → String
  | .firstChild => "first-child"
  | .lastChild => "last-child"
  | .onlyChild => "only-child"
  | .firstOfType => "first-of-type"
  | .lastOfType => "last-of-type"
  | .onlyOfType => "only-of-type"
  | .nthChild _ => "nth-child"
  | .nthLastChild _ => "nth-last-child"
  | .nthOfType _ => "nth-of-type"
  | .nthLastOfType _ => "nth-last-of-type"
  | .empty => "empty"
  | .root => "root"
  | .checked => "checked"
  | .disabled => "disabled"
  | .enabled => "enabled"
  | .focus => "focus"
  | .target => "target"
  | .hover => "hover"
  | .active => "active"
  | .link => "link"
  | .visited => "visited"

/-- The formula that a pseudo-class takes. -/
def formula? : PseudoClass → Option Nth
  | .nthChild f | .nthLastChild f | .nthOfType f | .nthLastOfType f => some f
  | _ => none

def Valid (p : PseudoClass) : Prop := ∀ f ∈ p.formula?, f.Valid

def tokens (p : PseudoClass) : List Token :=
  .colon :: match p.formula? with
    | none => [.ident p.name]
    | some f => .function p.name :: (f.tokens ++ [.closeParen])

end PseudoClass

namespace Condition

/-- Whether the condition is one on the type, which only comes first. -/
def isType : Condition → Bool
  | .type _ | .universal => true
  | _ => false

def Valid : Condition → Prop
  | .type name => IsLowerName name
  | .universal => True
  | .id name | .hasClass name => IsName name
  | .attribute test => test.Valid
  | .pseudoClass p => p.Valid

end Condition

namespace SimpleSelector

def isType : SimpleSelector → Bool
  | .plain c => c.isType
  | .negation _ => false

/-- A negation negates something, with a type at its start only. -/
def Valid : SimpleSelector → Prop
  | .plain c => c.Valid
  | .negation cs => cs ≠ [] ∧ (∀ c ∈ cs, c.Valid) ∧ ∀ c ∈ cs.tail, c.isType = false

end SimpleSelector

/-- What holds of the compound selectors that are read: something is there, and a type comes first
only. -/
structure CompoundSelector.Valid (c : CompoundSelector) : Prop where
  nonempty : c.simples ≠ [] ∨ c.pseudoElement.isSome
  simples : ∀ s ∈ c.simples, s.Valid
  types : ∀ s ∈ c.simples.tail, s.isType = false

/-- Only the subject has a pseudo-element. -/
structure ComplexSelector.Valid (s : ComplexSelector) : Prop where
  subject : s.subject.Valid
  links : ∀ link ∈ s.links, link.2.Valid ∧ link.2.pseudoElement = none

/-! ### Tokens -/

def AttributeOperator.tokens (o : AttributeOperator) : List Token := o.chars.map .delim

def AttributeTest.tokens : AttributeTest → List Token
  | .present name => [.openSquare, .ident name, .closeSquare]
  | .compares name operator value ignoreCase =>
    .openSquare :: .ident name :: (operator.tokens ++ .string value ::
      ((if ignoreCase then [.blank, .ident "i"] else []) ++ [.closeSquare]))

def Condition.tokens : Condition → List Token
  | .type name => [.ident name]
  | .universal => [.delim '*']
  | .id name => [.hash name true]
  | .hasClass name => [.delim '.', .ident name]
  | .attribute test => test.tokens
  | .pseudoClass p => p.tokens

def SimpleSelector.tokens : SimpleSelector → List Token
  | .plain c => c.tokens
  | .negation cs => .colon :: .function "not" :: (cs.flatMap Condition.tokens ++ [.closeParen])

def CompoundSelector.elementTokens (c : CompoundSelector) : List Token :=
  match c.pseudoElement with
  | none => []
  | some p => [.colon, .colon, .ident p.name]

def CompoundSelector.tokens (c : CompoundSelector) : List Token :=
  c.simples.flatMap SimpleSelector.tokens ++ c.elementTokens

def Combinator.tokens : Combinator → List Token
  | .descendant => [.blank]
  | .child => [.blank, .delim '>', .blank]
  | .nextSibling => [.blank, .delim '+', .blank]
  | .laterSibling => [.blank, .delim '~', .blank]

namespace ComplexSelector

def linkTokens : List (Combinator × CompoundSelector) → List Token
  | [] => []
  | (k, c) :: more => linkTokens more ++ c.tokens ++ k.tokens

def tokens (s : ComplexSelector) : List Token := linkTokens s.links ++ s.subject.tokens

end ComplexSelector

def SelectorList.tokens (l : SelectorList) : List Token :=
  List.intercalate [.comma, .blank] (l.map ComplexSelector.tokens)

/-! ### Names and strings -/

/-- Whether a text is made of name characters and starts as a name does. -/
def isWord (s : String) : Bool := s.toList.head?.any isNameStart && s.toList.all isNameChar

namespace LexesTo

variable {cs ds : List Char} {ts us : List Token} {s : String}

theorem name (h : IsName s) : LexesTo (Printer.name s.toList) [.ident s] where
  normal _ hc := isNormal_name hc
  tokens_append hr := by
    have hne : s.toList ≠ [] := by simpa using h.nonempty
    rw [tokens_ident h.noNul hne hr, String.ofList_toList]
    rfl

theorem hash (h : IsName s) : LexesTo ('#' :: Printer.name s.toList) [.hash s true] where
  normal c hc := by
    rcases List.mem_cons.1 hc with rfl | hc
    · exact ⟨by decide, by decide, by decide⟩
    · exact isNormal_name hc
  tokens_append hr := by
    have hne : s.toList ≠ [] := by simpa using h.nonempty
    rw [List.cons_append, tokens_hash h.noNul hne hr.endsName, String.ofList_toList]
    rfl

theorem dotted (h : IsName s) : LexesTo ('.' :: Printer.name s.toList) [.delim '.', .ident s] where
  normal c hc := by
    rcases List.mem_cons.1 hc with rfl | hc
    · exact ⟨by decide, by decide, by decide⟩
    · exact isNormal_name hc
  tokens_append {r} hr := by
    have hne : s.toList ≠ [] := by simpa using h.nonempty
    have hstart := startsName_printed h.noNul hne r
    have hname := (LexesTo.name h).tokens_append hr
    cases hcs : Printer.name s.toList ++ r with
    | nil => simp [hcs, startsName] at hstart
    | cons c t =>
      rw [hcs] at hstart hname
      have hdigit : ¬ c.isDigit := by
        rcases startsName_cases hstart with ⟨rfl, -⟩ | rfl | hc
        · decide
        · decide
        · exact not_isDigit_of_isNameStart hc
      rw [List.cons_append, hcs, tokens_dot hdigit, hname]
      rfl

theorem string (h : '\x00' ∉ s.toList) : LexesTo (Printer.string s.toList) [.string s] where
  normal _ hc := isNormal_string hc
  tokens_append _ := by
    rw [tokens_string h, String.ofList_toList]
    rfl

/-- A word of name characters before a text that no name goes on with. -/
theorem readName_word (h : isWord s) {r : List Char} (hr : EndsName r) :
    startsName (s.toList ++ r) ∧ readName (s.toList ++ r) = (s.toList, r) := by
  obtain ⟨hstart, hall⟩ := Bool.and_eq_true_iff.1 h
  refine ⟨?_, readName_of_all (List.all_eq_true.1 hall) hr.readName⟩
  cases hs : s.toList with
  | nil => simp [hs] at hstart
  | cons c w => exact startsName_cons (by simpa [hs] using hstart)

theorem isNormal_word (h : isWord s) {c : Char} (hc : c ∈ s.toList) : IsNormal c :=
  isNormal_of_isNameChar (List.all_eq_true.1 (Bool.and_eq_true_iff.1 h).2 c hc)

theorem word (h : isWord s) : LexesTo s.toList [.ident s] where
  normal _ hc := isNormal_word h hc
  tokens_append hr := by
    obtain ⟨hstart, hread⟩ := readName_word h hr.endsName
    rw [tokens_of_readName hstart hread hr, String.ofList_toList]
    rfl

/-- A function with its arguments, which are read as they are before the closing parenthesis. -/
theorem function (h : isWord s) (hurl : Text.sameIgnoringCase s "url" = false)
    (hnormal : ∀ c ∈ cs, IsNormal c)
    (hcs : ∀ {r : List Char}, tokens (cs ++ ')' :: r) = ts ++ tokens (')' :: r)) :
    LexesTo (s.toList ++ '(' :: cs ++ [')']) (.function s :: (ts ++ [.closeParen])) where
  normal c hc := by
    simp only [List.append_assoc, List.mem_append, List.cons_append, List.mem_cons,
      List.not_mem_nil, or_false] at hc
    rcases hc with hc | rfl | hc | rfl
    · exact isNormal_word h hc
    · exact ⟨by decide, by decide, by decide⟩
    · exact hnormal c hc
    · exact ⟨by decide, by decide, by decide⟩
  tokens_append {r} _ := by
    have hends : EndsName ('(' :: (cs ++ ')' :: r)) := by
      rintro c ⟨⟩
      decide
    obtain ⟨hstart, hread⟩ := readName_word h hends
    have hfunction := tokens_function hstart hread (by rwa [String.ofList_toList])
    rw [String.ofList_toList, hcs, tokens_single (by decide)] at hfunction
    simpa [Lexer.single] using hfunction

end LexesTo

/-! ### Conditions -/

theorem endsIdent_cons {c : Char} (h : isNameChar c = false ∧ c ≠ '\\' ∧ c ≠ '(' ∧ c ≠ '>') :
    EndsIdent (c :: r) := by
  rintro d ⟨⟩
  exact h

theorem AttributeOperator.lexesTo (o : AttributeOperator) : LexesTo o.chars o.tokens := by
  have hequals : LexesTo ['='] [.delim '='] := .single (by decide)
  cases o with
  | equals => exact hequals
  | includes | dashMatch | startsWith | endsWith | contains => exact .cons (by decide) hequals

theorem AttributeOperator.endsIdent (o : AttributeOperator) : EndsIdent (o.chars ++ r) := by
  cases o <;> exact endsIdent_cons (by decide)

theorem AttributeTest.lexesTo {t : AttributeTest} (h : t.Valid) : LexesTo t.chars t.tokens := by
  have hclose : LexesTo [']'] [.closeSquare] := .single (by decide)
  have hends : ∀ {r : List Char}, EndsIdent (']' :: r) := endsIdent_cons (by decide)
  cases t with
  | present name => exact .cons (by decide) ((LexesTo.name h.toIsName).append hclose fun _ => hends)
  | compares name operator value ignoreCase =>
    obtain ⟨hname, hvalue⟩ := h
    have hlead : LexesTo ('[' :: (Printer.name name.toList ++ operator.chars))
        (.openSquare :: ([.ident name] ++ operator.tokens)) :=
      .cons (by decide) ((LexesTo.name hname.toIsName).append operator.lexesTo
        fun _ => operator.endsIdent)
    have hstring : LexesTo ('[' :: (Printer.name name.toList ++ operator.chars) ++
        Printer.string value.toList) _ :=
      hlead.append (LexesTo.string hvalue) fun _ => endsIdent_cons (by decide)
    cases ignoreCase with
    | false =>
      have := hstring.append hclose fun _ => hends
      simpa [chars, tokens] using this
    | true =>
      have hflag : LexesTo "i".toList [.ident "i"] := .word (by decide)
      have := hstring.join separates_blank (hflag.append hclose fun _ => hends) fun r =>
        startsToken_cons (by decide) (by decide) _
      simpa [chars, tokens] using this

namespace PseudoClass

theorem isWord_name (p : PseudoClass) : isWord p.name := by
  cases p <;> simp only [name] <;> decide

theorem name_ne_url (p : PseudoClass) : Text.sameIgnoringCase p.name "url" = false := by
  cases p <;> simp only [name] <;> decide

theorem nameChars_eq (p : PseudoClass) : p.nameChars =
    match p.formula? with
    | none => p.name.toList
    | some f => formulaChars p.name f := by
  cases p <;> rfl

theorem lexesTo (p : PseudoClass) : LexesTo p.chars p.tokens := by
  have hname := p.isWord_name
  have hrest : LexesTo p.nameChars (match p.formula? with
      | none => [.ident p.name]
      | some f => .function p.name :: (f.tokens ++ [.closeParen])) := by
    rw [nameChars_eq]
    cases p.formula? with
    | none => exact .word hname
    | some f =>
      have := LexesTo.function hname p.name_ne_url (fun _ hc => f.isNormal_chars hc)
        fun {r} => f.tokens_chars r
      simpa [formulaChars] using this
  exact .cons (by decide) hrest

theorem endsIdent (p : PseudoClass) : EndsIdent (p.chars ++ r) := endsIdent_cons (by decide)

end PseudoClass

namespace Condition

variable {c : Condition}

theorem lexesTo (h : c.Valid) : LexesTo c.chars c.tokens := by
  cases c with
  | type name => exact .name h.toIsName
  | universal => exact .single (by decide)
  | id name => exact .hash h
  | hasClass name => exact .dotted h
  | «attribute» test => exact AttributeTest.lexesTo h
  | pseudoClass p => exact p.lexesTo

theorem endsIdent (h : c.isType = false) : EndsIdent (c.chars ++ r) := by
  cases c with
  | type name => simp [isType] at h
  | universal => simp [isType] at h
  | id name => exact endsIdent_cons (by decide)
  | hasClass name => exact endsIdent_cons (by decide)
  | «attribute» test => cases test <;> exact endsIdent_cons (by decide)
  | pseudoClass p => exact p.endsIdent

theorem startsToken (h : c.Valid) (r : List Char) : StartsToken (c.chars ++ r) := by
  cases c with
  | type name =>
    exact startsToken_of_startsName (startsName_printed h.noNul (by simpa using h.nonempty) r)
  | «attribute» test => cases test <;> exact startsToken_cons (by decide) (by decide) _
  | universal | id _ | hasClass _ | pseudoClass _ => exact startsToken_cons (by decide) (by decide) _

end Condition

/-- Texts of which all but the first may follow an identifier. -/
theorem LexesTo.flatMap {α : Type} {f : α → List Char} {g : α → List Token} {l : List α}
    (h : ∀ x ∈ l, LexesTo (f x) (g x)) (hends : ∀ x ∈ l.tail, ∀ r, EndsIdent (f x ++ r)) :
    LexesTo (l.flatMap f) (l.flatMap g) := by
  induction l with
  | nil => exact .nil
  | cons x l ih =>
    have hmore := ih (fun y hy => h y (List.mem_cons_of_mem x hy))
      fun y hy => hends y (List.mem_of_mem_tail hy)
    refine (h x List.mem_cons_self).append hmore fun {r} hr => ?_
    cases l with
    | nil => exact hr
    | cons y l =>
      change EndsIdent ((y :: l).flatMap f ++ r)
      rw [List.flatMap_cons, List.append_assoc]
      exact hends y List.mem_cons_self _

/-! ### Simple and compound selectors -/

namespace SimpleSelector

variable {s : SimpleSelector}

theorem lexesTo (h : s.Valid) : LexesTo s.chars s.tokens := by
  cases s with
  | plain c => exact Condition.lexesTo h
  | negation cs =>
    obtain ⟨-, hvalid, htypes⟩ := h
    have hcs : LexesTo (cs.flatMap Condition.chars) (cs.flatMap Condition.tokens) :=
      .flatMap (fun c hc => Condition.lexesTo (hvalid c hc))
        fun c hc r => Condition.endsIdent (htypes c hc)
    have hnot : LexesTo ("not".toList ++ '(' :: cs.flatMap Condition.chars ++ [')'])
        (.function "not" :: (cs.flatMap Condition.tokens ++ [.closeParen])) :=
      .function (by decide) (by decide) hcs.normal
        fun {r} => hcs.tokens_append (endsIdent_cons (by decide))
    exact .cons (by decide) hnot

theorem endsIdent (h : s.isType = false) (r : List Char) : EndsIdent (s.chars ++ r) := by
  cases s with
  | plain c => exact Condition.endsIdent h
  | negation cs => exact endsIdent_cons (by decide)

theorem startsToken (h : s.Valid) (r : List Char) : StartsToken (s.chars ++ r) := by
  cases s with
  | plain c => exact Condition.startsToken h r
  | negation cs => exact startsToken_cons (by decide) (by decide) _

end SimpleSelector

namespace PseudoElement

theorem lexesTo (p : PseudoElement) :
    LexesTo p.key.toList [.colon, .colon, .ident p.name] := by
  have hword : isWord p.name := by
    cases p <;> decide
  have hkey : p.key.toList = ':' :: ':' :: p.name.toList := by
    cases p <;> rfl
  rw [hkey]
  exact .cons (by decide) (.cons (by decide) (.word hword))

theorem head_key (p : PseudoElement) : ∃ cs, p.key.toList = ':' :: cs := by
  cases p <;> exact ⟨_, rfl⟩

end PseudoElement

namespace CompoundSelector

variable {c : CompoundSelector}

theorem lexesTo (h : c.Valid) : LexesTo c.chars c.tokens := by
  have hsimples : LexesTo (c.simples.flatMap SimpleSelector.chars)
      (c.simples.flatMap SimpleSelector.tokens) :=
    .flatMap (fun s hs => SimpleSelector.lexesTo (h.simples s hs))
      fun s hs => SimpleSelector.endsIdent (h.types s hs)
  unfold chars tokens elementTokens
  cases c.pseudoElement with
  | none => simpa using hsimples
  | some p =>
    refine hsimples.append p.lexesTo fun {r} _ => ?_
    obtain ⟨cs, hcs⟩ := p.head_key
    change EndsIdent (p.key.toList ++ r)
    rw [hcs]
    exact endsIdent_cons (by decide)

theorem startsToken (h : c.Valid) (r : List Char) : StartsToken (c.chars ++ r) := by
  unfold chars
  cases hsimples : c.simples with
  | nil =>
    have hsome := h.nonempty.resolve_left fun hne => hne hsimples
    obtain ⟨p, hp⟩ := Option.isSome_iff_exists.1 hsome
    obtain ⟨cs, hcs⟩ := p.head_key
    rw [hp]
    simp only [List.flatMap_nil, List.nil_append, hcs]
    exact startsToken_cons (by decide) (by decide) _
  | cons s more =>
    rw [List.flatMap_cons, List.append_assoc, List.append_assoc]
    exact SimpleSelector.startsToken (h.simples s (hsimples ▸ List.mem_cons_self)) _

end CompoundSelector

/-! ### Selectors and lists of them -/

/-- A sign between blanks. -/
theorem separates_sign {d : Char} (hnormal : IsNormal d) (hblank : Text.isAsciiBlank d = false)
    (hslash : d ≠ '/')
    (h : ∀ r, Lexer.tokens (d :: ' ' :: r) = .delim d :: Lexer.tokens (' ' :: r)) :
    Separates [' ', d, ' '] [.blank, .delim d, .blank] where
  normal c hc := by
    simp only [List.mem_cons, List.not_mem_nil, or_false] at hc
    rcases hc with rfl | rfl | rfl
    · exact separates_blank.normal _ List.mem_cons_self
    · exact hnormal
    · exact separates_blank.normal _ List.mem_cons_self
  endsIdent r := endsIdent_cons (by decide)
  tokens_append {r} hr := by
    have hstarts : StartsToken (d :: ' ' :: r) := startsToken_cons hblank hslash _
    change Lexer.tokens (' ' :: d :: ' ' :: r) = _
    rw [tokens_blank hstarts, h, tokens_blank hr]
    rfl

theorem Combinator.separates (k : Combinator) : Separates k.text.toList k.tokens := by
  cases k with
  | descendant => exact separates_blank
  | child =>
    exact separates_sign ⟨by decide, by decide, by decide⟩ (by decide) (by decide) fun _ =>
      tokens_single (by decide) _
  | nextSibling =>
    exact separates_sign ⟨by decide, by decide, by decide⟩ (by decide) (by decide) tokens_plus
  | laterSibling =>
    exact separates_sign ⟨by decide, by decide, by decide⟩ (by decide) (by decide) fun _ =>
      tokens_single (by decide) _

namespace ComplexSelector

variable {s : ComplexSelector}

/-- A selector with links as the one to the left of its last combinator. -/
theorem chars_extend (s : ComplexSelector) (k : Combinator) (c : CompoundSelector) :
    (s.extend k c).chars = s.chars ++ k.text.toList ++ c.chars := rfl

theorem tokens_extend (s : ComplexSelector) (k : Combinator) (c : CompoundSelector) :
    (s.extend k c).tokens = s.tokens ++ k.tokens ++ c.tokens := rfl

/-- Selectors are built from their leftmost compound selector by extending them to the right. -/
theorem extend_induction {motive : ComplexSelector → Prop} (single : ∀ c, motive ⟨c, []⟩)
    (extend : ∀ s k c, motive s → motive (s.extend k c)) (s : ComplexSelector) : motive s := by
  obtain ⟨subject, links⟩ := s
  induction links generalizing subject with
  | nil => exact single subject
  | cons link links ih => exact extend ⟨link.2, links⟩ link.1 subject (ih link.2)

theorem Valid.of_extend {k : Combinator} {c : CompoundSelector} (h : (s.extend k c).Valid) :
    s.Valid ∧ s.subject.pseudoElement = none ∧ c.Valid := by
  obtain ⟨hs, hnone⟩ := h.links (k, s.subject) List.mem_cons_self
  exact ⟨⟨hs, fun link hlink => h.links link (List.mem_cons_of_mem _ hlink)⟩, hnone, h.subject⟩

theorem lexesTo (h : s.Valid) : LexesTo s.chars s.tokens := by
  induction s using extend_induction with
  | single c => exact c.lexesTo h.subject
  | extend s k c ih =>
    obtain ⟨hs, -, hc⟩ := h.of_extend
    exact (ih hs).join k.separates (c.lexesTo hc) (c.startsToken hc)

theorem startsToken (h : s.Valid) (r : List Char) : StartsToken (s.chars ++ r) := by
  induction s using extend_induction generalizing r with
  | single c => exact c.startsToken h.subject r
  | extend s k c ih =>
    obtain ⟨hs, -, -⟩ := h.of_extend
    rw [chars_extend, List.append_assoc, List.append_assoc]
    exact ih hs _

end ComplexSelector

namespace SelectorList

theorem separates_comma : Separates [',', ' '] [.comma, .blank] where
  normal := by simp [IsNormal]
  endsIdent _ := endsIdent_cons (by decide)
  tokens_append {r} hr := by
    change Lexer.tokens (',' :: ' ' :: r) = _
    rw [tokens_single (by decide), tokens_blank hr]
    rfl

theorem lexesTo {l : SelectorList} (h : ∀ s ∈ l, s.Valid) :
    LexesTo (SelectorList.chars l) (SelectorList.tokens l) := by
  unfold chars tokens
  induction l with
  | nil => exact .nil
  | cons s l ih =>
    have hs := ComplexSelector.lexesTo (h s List.mem_cons_self)
    have hl := ih fun t ht => h t (List.mem_cons_of_mem s ht)
    cases l with
    | nil => simpa using hs
    | cons t l =>
      have hstarts : ∀ r, StartsToken
          (List.intercalate [',', ' '] ((t :: l).map ComplexSelector.chars) ++ r) := by
        intro r
        rw [List.map_cons, intercalate_cons_eq, List.append_assoc]
        exact ComplexSelector.startsToken (h t (by simp)) _
      have := hs.join separates_comma hl hstarts
      simpa using this

/-- The text of valid selectors is read as their tokens. -/
theorem tokenize_text {l : SelectorList} (h : ∀ s ∈ l, s.Valid) :
    tokenize (SelectorList.text l) = SelectorList.tokens l := by
  have hlexes := lexesTo h
  have := hlexes.tokens_append (r := []) (by simp [EndsIdent])
  rw [tokenize, text, String.toList_ofList, normalize_of_isNormal hlexes.normal]
  simpa using this

end SelectorList

end WebStyle
