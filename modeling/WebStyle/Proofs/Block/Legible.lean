import WebStyle.Block
import WebStyle.Proofs.Text
import WebStyle.Proofs.Token.Local
import WebStyle.Proofs.Token.Nesting
/-!
Declarations in a text, one after the other: which of them are read as they were meant.
-/
set_option autoImplicit false

namespace WebStyle

/-! ### Declarations one after the other -/

namespace Declaration

open Lexer

/-- The declarations of normalized characters. -/
def listOfChars (cs : List Char) : List Declaration := (listOfTokens (tokens cs)).1

theorem listOfChars_nil : listOfChars [] = [] := by
  rw [listOfChars, tokens_nil]
  rfl

theorem ofTokens?_congr {ts ts' : List Token} (h : trimBlanks ts = trimBlanks ts') :
    ofTokens? ts = ofTokens? ts' := by
  simp only [ofTokens?, h]

/-- Blank pieces need not be left out: they make no declarations. -/
theorem listOfTokens_fst (ts : List Token) :
    (listOfTokens ts).1 =
      (splitOutside opensGroup closesGroup (· == .semicolon) 0 ts).filterMap ofTokens? := by
  have hblank : ∀ piece : List Token, piece.all Token.isBlank → ofTokens? piece = none := by
    intro piece h
    have htrim : trimBlanks piece = [] := by
      have hdrop : piece.dropWhile Token.isBlank = [] := by
        rw [List.dropWhile_eq_nil_iff]
        exact List.all_eq_true.1 h
      rw [trimBlanks, trimBy, hdrop]
      rfl
    simp only [ofTokens?, htrim]
  simp only [listOfTokens, chunks, List.filterMap_filter]
  refine List.filterMap_congr fun piece _ => ?_
  split
  · rfl
  · rename_i h
    exact (hblank piece (by simpa using h)).symm

theorem listOfTokens_blank_cons (ts : List Token) :
    (listOfTokens (.blank :: ts)).1 = (listOfTokens ts).1 := by
  rw [listOfTokens_fst, listOfTokens_fst]
  cases hsplit : splitOutside opensGroup closesGroup (· == .semicolon) 0 ts with
  | nil => exact absurd hsplit (splitOutside_ne_nil _ _ _ _ _)
  | cons piece pieces =>
    have htrim : ofTokens? (.blank :: piece) = ofTokens? piece := ofTokens?_congr rfl
    have hcons : splitOutside opensGroup closesGroup (· == .semicolon) 0 (.blank :: ts) =
        (.blank :: piece) :: pieces := by
      simp [splitOutside, opensGroup, Token.opensGroup, closesGroup, Token.closesGroup, hsplit]
    rw [hcons, List.filterMap_cons, List.filterMap_cons, htrim]

theorem listOfChars_blank_cons (cs : List Char) : listOfChars (' ' :: cs) = listOfChars cs := by
  rcases tokens_blank_cons cs with h | h
  · rw [listOfChars, h, listOfChars]
  · rw [listOfChars, h, listOfTokens_blank_cons, listOfChars]

/-- What a block's text has for a declaration. -/
def text (d : Declaration) : String := DeclarationBlock.declarationText d.name d.value d.important

/-- Whether the text of a declaration, on its own, reads as that declaration with a semicolon at the
end. -/
structure Legible (d : Declaration) : Prop where
  ends : endsInSemicolon (Lexer.normalize d.text.toList)
  reads : ∃ ts, ofTokens? ts = some d ∧
    splitOutside opensGroup closesGroup (· == .semicolon) 0 (tokenize d.text) = [ts, []]

theorem normalize_text (d : Declaration) : ∃ cs, Lexer.normalize d.text.toList = cs ++ [';'] := by
  obtain ⟨cs, h⟩ : ∃ cs, d.text.toList = cs ++ [';'] := by
    cases hd : d.important with
    | true => exact ⟨(d.name ++ ": " ++ d.value ++ " !important").toList, by
        simp [text, DeclarationBlock.declarationText, hd]⟩
    | false => exact ⟨(d.name ++ ": " ++ d.value).toList, by
        simp [text, DeclarationBlock.declarationText, hd]⟩
  exact ⟨Lexer.normalize cs, by rw [h, normalize_append (by decide)]; rfl⟩

theorem listOfChars_append {d : Declaration} (h : d.Legible) (r : List Char) :
    listOfChars (Lexer.normalize d.text.toList ++ r) = d :: listOfChars r := by
  obtain ⟨cs, hcs⟩ := d.normalize_text
  obtain ⟨ts, hts, hsplit⟩ := h.reads
  have hends := h.ends
  rw [hcs] at hends
  rw [tokenize, hcs] at hsplit
  have hmore := splitOutside_append (List.cons_ne_nil ts []) (show _ = [ts] ++ [[]] from hsplit)
    (tokens r)
  rw [listOfChars, hcs, List.append_assoc, List.cons_append, List.nil_append,
    tokens_append_semicolon hends, listOfTokens_fst, hmore, listOfChars, listOfTokens_fst]
  simp [hts]

/-- Legible declarations are read one after the other. -/
theorem listOfString_intercalate {ds : List Declaration} (h : ∀ d ∈ ds, d.Legible) :
    listOfString (String.intercalate " " (ds.map text)) = ds := by
  have hchars :
      listOfChars (Lexer.normalize (String.intercalate " " (ds.map text)).toList) = ds := by
    induction ds with
    | nil => exact listOfChars_nil
    | cons d ds ih =>
      have hd := h d List.mem_cons_self
      have ih := ih fun e he => h e (List.mem_cons_of_mem d he)
      cases ds with
      | nil => simpa [listOfChars_nil] using listOfChars_append hd []
      | cons e ds =>
        rw [List.map_cons, List.map_cons, String.intercalate_cons_cons, String.append_assoc,
          String.toList_append, String.toList_append, ← List.map_cons]
        have hblank : ∀ cs, Lexer.normalize (d.text.toList ++ (" ".toList ++ cs)) =
            Lexer.normalize d.text.toList ++ ' ' :: Lexer.normalize cs := fun cs =>
          normalize_append (by decide) d.text.toList cs
        rw [hblank, listOfChars_append hd, listOfChars_blank_cons, ih]
  exact hchars

/-! ### Declarations in canonical form -/

/-- Whether a name is one that declarations have: in lower case, unless it is a custom name. -/
def IsSpelled (name : String) : Prop := isCustomName name ∨ Text.lower name = name

theorem isSpelled_of_ofTokens? {ts : List Token} {d : Declaration} (h : ofTokens? ts = some d) :
    IsSpelled d.name := by
  unfold ofTokens? at h
  split at h
  · split at h
    · simp only [Option.bind_eq_bind, Option.bind_eq_some_iff] at h
      obtain ⟨⟨value, important⟩, -, h⟩ := h
      split at h
      · simp at h
      · obtain rfl := Option.some.inj h
        simp only [IsSpelled]
        split
        · rename_i hcustom
          exact .inl hcustom
        · exact .inr (Text.lower_lower _)
    · simp at h
  · simp at h

theorem ofTokens?_value (name : String) {before us after : List Token} (hus : Tight us)
    (hbefore : ∀ t ∈ before, t.isBlank) (hafter : ∀ t ∈ after, t.isBlank) :
    ofTokens? (.ident name :: .colon :: (before ++ us ++ after)) =
      (splitPriority? us).bind fun (value, important) =>
        if !value.all allowsToken || (value.isEmpty && !isCustomName name) then none
        else some ⟨if isCustomName name then name else Text.lower name, tokensText value,
          important⟩ := by
  have hname : Tight (.ident name :: .colon :: (before ++ us)) :=
    (show Tight [.ident name, .colon] from .of_forall (by simp)
    (by simp [Token.isBlank])).sandwich hus
      before
  have hcolon : Tight (.colon :: (before ++ us)) := (Tight.single rfl).sandwich hus before
  have htrim := hname.trimBlanks_between [] after (by simp) hafter
  have hvalue : splitPriority? (before ++ us) = splitPriority? us := by
    have hboth := hus.trimBlanks_between before [] hbefore (by simp)
    rw [List.append_nil] at hboth
    simp only [splitPriority?, hboth, hus.trimBlanks]
  simp only [List.nil_append, List.cons_append, List.append_assoc] at htrim ⊢
  simp only [ofTokens?, htrim, hcolon.trimBlanks, hvalue]
  rfl

theorem splitPriority?_of_notMem {us : List Token} (hus : Tight us) (h : .delim '!' ∉ us) :
    splitPriority? us = some (us, false) := by
  have hsplit : splitOutside Token.opensGroup Token.closesGroup (· == .delim '!') 0 us = [us] :=
    splitOutside_of_forall (fun t ht => by
      have : t ≠ .delim '!' := fun heq => h (heq ▸ ht)
      simpa using this) 0
  simp only [splitPriority?, hus.trimBlanks, hsplit]

/-- The tokens of the mark of an important declaration. -/
def mark : List Token := [.blank, .delim '!', .ident "important"]

theorem splitPriority?_mark {us after : List Token} (hus : Tight us) (h : .delim '!' ∉ us)
    (hafter : ∀ t ∈ after, t.isBlank)
    (hclosed : depthAfter Token.opensGroup Token.closesGroup 0 us = 0) :
    Tight (us ++ (after ++ mark)) ∧ splitPriority? (us ++ (after ++ mark)) = some (us, true) := by
  have hblank : ∀ t ∈ after ++ [.blank], t.isBlank := by
    intro t ht
    rcases List.mem_append.1 ht with ht | ht
    · exact hafter t ht
    · exact List.mem_singleton.1 ht ▸ rfl
  have hmark : us ++ (after ++ mark) =
      us ++ (after ++ [.blank]) ++ [.delim '!', .ident "important"] := by
    simp [mark]
  have htight : Tight (us ++ (after ++ [.blank]) ++ [.delim '!', .ident "important"]) :=
    hus.sandwich (.of_forall (by simp) (by simp [Token.isBlank])) _
  have hdepth : depthAfter Token.opensGroup Token.closesGroup 0
    (us ++ (after ++ [.blank])) = 0 := by
    rw [depthAfter_append, hclosed]
    refine depthAfter_of_forall (fun t ht => ?_) 0
    exact Token.not_groups_of_isBlank (hblank t ht)
  have hsplit : splitOutside Token.opensGroup Token.closesGroup (· == .delim '!') 0
      (us ++ (after ++ [.blank]) ++ [.delim '!', .ident "important"]) =
        [us ++ (after ++ [.blank]) ++ [], [.ident "important"]] := by
    refine splitOutside_append_of_forall (fun t ht => ?_) (hdepth.symm ▸ rfl)
    rcases List.mem_append.1 ht with ht | ht
    · have : t ≠ .delim '!' := fun heq => h (heq ▸ ht)
      simpa using this
    · have := hblank t ht
      cases t <;> simp_all [Token.isBlank]
  have hbefore := hus.trimBlanks_between [] _ (by simp) hblank
  rw [List.nil_append] at hbefore
  rw [hmark]
  refine ⟨htight, ?_⟩
  simp only [splitPriority?, htight.trimBlanks, hsplit, List.append_nil, hbefore,
    (Tight.single (t := .ident "important") rfl).trimBlanks]
  rfl

/-- What stands after the value of a declaration in a text. -/
def ending (d : Declaration) : String := if d.important then " !important;" else ";"

theorem tokenize_ending (d : Declaration) :
    tokenize d.ending = (if d.important then mark else []) ++ [.semicolon] := by
  cases h : d.important with
  | true => simp only [ending, h]; decide +kernel
  | false => simp only [ending, h]; decide +kernel

/-- Declarations in canonical form that end where their text does: the name is written with name
characters only and reads as a name, and the value keeps to itself when something follows, with all
groups in it closed. -/
structure Contained (d : Declaration) : Prop where
  named : d.name.toList.all isNameChar
  starts : startsName d.name.toList
  canonical : valueText? d.value = some d.value
  apart : tokenize (d.value ++ d.ending) = tokenize d.value ++ tokenize d.ending
  ends : endsInSemicolon (Lexer.normalize (d.value ++ d.ending).toList)
  closed : depthAfter Token.opensGroup Token.closesGroup 0 (tokenize d.value) = 0

instance (d : Declaration) : Decidable d.Contained :=
  decidable_of_iff (d.name.toList.all isNameChar ∧ startsName d.name.toList ∧
      valueText? d.value = some d.value ∧
      tokenize (d.value ++ d.ending) = tokenize d.value ++ tokenize d.ending ∧
      endsInSemicolon (Lexer.normalize (d.value ++ d.ending).toList) ∧
      depthAfter Token.opensGroup Token.closesGroup 0 (tokenize d.value) = 0)
    ⟨fun ⟨named, starts, canonical, apart, ends, closed⟩ =>
      ⟨named, starts, canonical, apart, ends, closed⟩,
     fun ⟨named, starts, canonical, apart, ends, closed⟩ =>
      ⟨named, starts, canonical, apart, ends, closed⟩⟩

/-- What a canonical value is made of. -/
theorem of_valueText? {v v' : String} (h : valueText? v = some v') :
    trimBlanks (tokenize v) ≠ [] ∧ (∀ t ∈ trimBlanks (tokenize v), allowsToken t) ∧
      .delim '!' ∉ trimBlanks (tokenize v) ∧ tokensText (trimBlanks (tokenize v)) = v' := by
  simp only [valueText?] at h
  split at h
  · simp at h
  · rename_i hcond
    simp only [Bool.or_eq_true, not_or, List.isEmpty_iff, Bool.not_eq_true', Bool.not_eq_false,
      List.all_eq_true, List.contains_iff_mem] at hcond
    exact ⟨hcond.1.1, hcond.1.2, hcond.2, Option.some.inj h⟩

theorem allowsToken_of_isBlank {t : Token} (h : t.isBlank) : allowsToken t := by
  cases t <;> simp_all [Token.isBlank, allowsToken]

theorem allowsToken_of_mem_mark {t : Token} (h : t ∈ mark) : allowsToken t := by
  revert t
  decide

/-- Tokens that a value may hold neither end a declaration nor group otherwise than in values. -/
theorem of_allowsToken {t : Token} (h : allowsToken t) : (t == .semicolon) = false ∧
    opensGroup t = t.opensGroup ∧ closesGroup t = t.closesGroup := by
  cases t <;> simp_all [allowsToken, opensGroup, closesGroup]

/-- Tokens that a value may hold, with all groups closed, make one piece. -/
theorem splitOutside_semicolon {ts : List Token} (h : ∀ t ∈ ts, allowsToken t)
    (hclosed : depthAfter Token.opensGroup Token.closesGroup 0 ts = 0) :
    splitOutside opensGroup closesGroup (· == .semicolon) 0 (ts ++ [.semicolon]) = [ts, []] := by
  have hdepth : depthAfter opensGroup closesGroup 0 ts = 0 := by
    rw [depthAfter_congr fun t ht => (of_allowsToken (h t ht)).2, hclosed]
  have hsplit : splitOutside opensGroup closesGroup (· == .semicolon) 0 (ts ++ [.semicolon]) =
      [ts ++ [], []] :=
    splitOutside_append_of_forall (fun t ht => (of_allowsToken (h t ht)).1) (hdepth.symm ▸ rfl)
  rwa [List.append_nil] at hsplit

namespace Contained

variable {d : Declaration}

theorem normalize_text (h : d.Contained) : Lexer.normalize d.text.toList =
    d.name.toList ++ ':' :: ' ' :: Lexer.normalize (d.value ++ d.ending).toList := by
  have htext : d.text.toList = d.name.toList ++ ':' :: ' ' :: (d.value ++ d.ending).toList := by
    simp [text, DeclarationBlock.declarationText, ending]
  rw [htext, normalize_append (by decide),
    normalize_of_isNormal fun c hc => isNormal_of_isNameChar (List.all_eq_true.1 h.named c hc)]
  rfl

theorem next?_text (h : d.Contained) (r : List Char) :
    next? (d.name.toList ++ ':' :: r) = some (.ident d.name, ':' :: r) := by
  have hr : EndsIdent (':' :: r) := by
    rintro c ⟨⟩
    decide
  have hnext := next?_of_readName (startsName_extend h.starts (':' :: r))
    (readName_of_all (List.all_eq_true.1 h.named) hr.endsName.readName) hr
  rwa [String.ofList_toList] at hnext

theorem ends_text (h : d.Contained) : endsInSemicolon (Lexer.normalize d.text.toList) := by
  have hcolon : ∀ r, next? (':' :: r) = some (.colon, r) := fun r =>
    next?_cons (by decide) (by decide) rfl
  rw [h.normalize_text, endsInSemicolon_of_next? (h.next?_text _),
    endsInSemicolon_of_next? (hcolon _), endsInSemicolon_blank_cons h.ends]
  rfl

theorem tokenize_text (h : d.Contained) : ∃ before : List Token, (∀ t ∈ before, t.isBlank) ∧
    tokenize d.text = .ident d.name :: .colon ::
      (before ++ (tokenize d.value ++ (if d.important then mark else []))) ++ [.semicolon] := by
  have hcolon : ∀ r, tokens (':' :: r) = .colon :: tokens r := tokens_single (by decide)
  have hvalue : tokens (Lexer.normalize (d.value ++ d.ending).toList) =
      tokenize d.value ++ (if d.important then mark else []) ++ [.semicolon] := by
    rw [List.append_assoc, ← tokenize_ending, ← h.apart]
    rfl
  rw [tokenize, h.normalize_text, tokens_of_next? (h.next?_text _), hcolon]
  rcases tokens_blank_cons (Lexer.normalize (d.value ++ d.ending).toList) with hblank | hblank
  · exact ⟨[], by simp, by rw [hblank, hvalue]; simp⟩
  · exact ⟨[.blank], by simp [Token.isBlank], by rw [hblank, hvalue]; simp⟩

theorem depthAfter_of_blanks {ts : List Token} (h : ∀ t ∈ ts, t.isBlank) (depth : Nat) :
    depthAfter Token.opensGroup Token.closesGroup depth ts = depth :=
  depthAfter_of_forall (fun t ht => Token.not_groups_of_isBlank (h t ht)) depth

/-- The value with its mark, between blanks, is taken apart again. -/
theorem exists_marked (h : d.Contained) : ∃ left us right : List Token,
    tokenize d.value ++ (if d.important then mark else []) = left ++ us ++ right ∧
    (∀ t ∈ left, t.isBlank) ∧ (∀ t ∈ right, t.isBlank) ∧ Tight us ∧
    (∀ t ∈ us, allowsToken t) ∧ depthAfter Token.opensGroup Token.closesGroup 0 us = 0 ∧
    splitPriority? us = some (trimBlanks (tokenize d.value), d.important) := by
  obtain ⟨hne, hallows, hmark, -⟩ := of_valueText? h.canonical
  obtain ⟨htight, left, right, hleft, hright, hparts⟩ := Tight.of_trimBlanks hne
  have hclosed : depthAfter Token.opensGroup Token.closesGroup 0
      (trimBlanks (tokenize d.value)) = 0 := by
    have hclosed := h.closed
    rwa [hparts, depthAfter_append, depthAfter_append, depthAfter_of_blanks hleft,
      depthAfter_of_blanks hright] at hclosed
  cases hd : d.important with
  | false =>
    exact ⟨left, _, right, by simpa using hparts, hleft, hright, htight, hallows, hclosed,
      splitPriority?_of_notMem htight hmark⟩
  | true =>
    obtain ⟨hus, hsplit⟩ := splitPriority?_mark htight hmark hright hclosed
    refine ⟨left, _, [], ?_, hleft, by simp, hus, fun t ht => ?_, ?_, hsplit⟩
    · conv_lhs => rw [hparts]
      simp
    · rcases List.mem_append.1 ht with ht | ht
      · exact hallows t ht
      · rcases List.mem_append.1 ht with ht | ht
        · exact allowsToken_of_isBlank (hright t ht)
        · exact allowsToken_of_mem_mark ht
    · rw [depthAfter_append, hclosed, depthAfter_append, depthAfter_of_blanks hright]
      rfl

/-- A declaration in canonical form is legible. -/
theorem legible (h : d.Contained) (hname : IsSpelled d.name) :
    d.Legible := by
  obtain ⟨before, hbefore, htext⟩ := h.tokenize_text
  obtain ⟨left, us, right, hmarked, hleft, hright, hus, hallows, hclosed, hsplit⟩ := h.exists_marked
  obtain ⟨hne, hallows', -, hvalue⟩ := of_valueText? h.canonical
  have hbefore : ∀ t ∈ before ++ left, t.isBlank := fun t ht =>
    (List.mem_append.1 ht).elim (hbefore t) (hleft t)
  rw [hmarked, ← List.append_assoc, ← List.append_assoc] at htext
  refine ⟨h.ends_text, _, (ofTokens?_value d.name hus hbefore hright).trans ?_, ?_⟩
  · have hspelled : (if isCustomName d.name then d.name else Text.lower d.name) = d.name := by
      rcases hname with hname | hname
      · rw [if_pos hname]
      · rw [hname, ite_self]
    simpa [hsplit, hne, hvalue, hspelled] using hallows'
  · rw [htext]
    refine splitOutside_semicolon (fun t ht => ?_) ?_
    · simp only [List.mem_cons, List.mem_append] at ht hbefore
      rcases ht with rfl | rfl | (ht | ht) | ht
      · rfl
      · rfl
      · exact allowsToken_of_isBlank (hbefore t ht)
      · exact hallows t ht
      · exact allowsToken_of_isBlank (hright t ht)
    · change depthAfter Token.opensGroup Token.closesGroup 0 (before ++ left ++ us ++ right) = 0
      rw [depthAfter_append, depthAfter_append, depthAfter_of_blanks hbefore, hclosed,
        depthAfter_of_blanks hright]

end Contained

end Declaration

end WebStyle
