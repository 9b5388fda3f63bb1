import WebStyle.Proofs.Block.Legible
import WebStyle.Proofs.Sheet.Isolation
import WebStyle.Proofs.Token.Escaped
/-!
The values that scripts set, and those that are read in declarations. Both are the same values, with
the same canonical text, unless an exclamation mark stands inside a function or brackets.
-/
set_option autoImplicit false

namespace WebStyle

open Lexer

/-- Names that declarations have as they stand: written with name characters only, in lower case,
neither of custom properties nor of shorthands. -/
structure IsPlainLonghand (name : String) : Prop where
  starts : startsName name.toList
  named : name.toList.all isNameChar
  lower : Text.lower name = name
  ordinary : isCustomName name = false
  longhand : Shorthand.ofName? name = none

instance (name : String) : Decidable (IsPlainLonghand name) :=
  decidable_of_iff (startsName name.toList ∧ name.toList.all isNameChar ∧ Text.lower name = name ∧
      isCustomName name = false ∧ Shorthand.ofName? name = none)
    ⟨fun ⟨starts, named, lower, ordinary, longhand⟩ => ⟨starts, named, lower, ordinary, longhand⟩,
     fun ⟨starts, named, lower, ordinary, longhand⟩ => ⟨starts, named, lower, ordinary, longhand⟩⟩

variable {n v w : String} {ts : List Token} {t : Token}

theorem mem_trimBlanks (ht : t.isBlank = false) : t ∈ trimBlanks ts ↔ t ∈ ts :=
  ⟨mem_of_mem_trimBy, fun h => mem_trimBy h ht⟩

/-- A value with an exclamation mark is none for a script, wherever the mark stands. -/
theorem notMem_of_valueText? (h : valueText? v = some w) : .delim '!' ∉ tokenize v := by
  obtain ⟨-, -, hmark, -⟩ := Declaration.of_valueText? h
  rwa [mem_trimBlanks rfl] at hmark

namespace Declaration

/-- A name and a colon before any tokens make a declaration of them, or nothing. -/
theorem ofTokens?_named (n : String) (ts : List Token) :
    ofTokens? (.ident n :: .colon :: ts) =
      (splitPriority? ts).bind fun (value, important) =>
        if !value.all allowsToken || (value.isEmpty && !isCustomName n) then none
        else some ⟨if isCustomName n then n else Text.lower n, tokensText value, important⟩ := by
  by_cases hts : trimBlanks ts = []
  · have hblank : ∀ t ∈ ts, t.isBlank := by
      intro t ht
      by_contra hnot
      have hmem := (mem_trimBlanks (by simpa using hnot)).2 ht
      simp [hts] at hmem
    have hname : Tight [.ident n, .colon] := .of_forall (by simp) (by simp [Token.isBlank])
    have htrim : trimBlanks (.ident n :: .colon :: ts) = [.ident n, .colon] :=
      hname.trimBlanks_between [] ts (by simp) hblank
    have hvalue : HasValue (.ident n :: .colon :: ts) n [] :=
      ⟨[.colon], htrim, (Tight.single rfl).trimBlanks⟩
    rw [ofTokens?_of_hasValue hvalue]
    simp only [splitPriority?, hts]
    rfl
  · obtain ⟨htight, before, after, hbefore, hafter, hparts⟩ := Tight.of_trimBlanks hts
    have hpriority : splitPriority? (trimBlanks ts) = splitPriority? ts := by
      simp only [splitPriority?, htight.trimBlanks]
    conv_lhs => rw [hparts]
    rw [ofTokens?_value n htight hbefore hafter, hpriority]

/-- Without exclamation marks, a declaration is read exactly where a script may set the value. -/
theorem ofTokens?_of_notMem (hn : IsPlainLonghand n) (h : .delim '!' ∉ tokenize v) :
    ofTokens? (.ident n :: .colon :: tokenize v) = (valueText? v).map (⟨n, ·, false⟩) := by
  have hsplit : splitPriority? (tokenize v) = some (trimBlanks (tokenize v), false) := by
    have hpieces : splitOutside Token.opensGroup Token.closesGroup (· == .delim '!') 0
        (trimBlanks (tokenize v)) = [trimBlanks (tokenize v)] := by
      refine splitOutside_of_forall (fun t ht => ?_) 0
      exact beq_false_of_ne fun heq => h (mem_of_mem_trimBy (heq ▸ ht))
    simp only [splitPriority?, hpieces]
  have hmark : (trimBlanks (tokenize v)).contains (.delim '!') = false := by
    simpa [mem_trimBlanks (t := .delim '!') rfl] using h
  rw [ofTokens?_named, hsplit]
  simp only [valueText?, hmark, hn.ordinary, hn.lower, Option.bind_some, Bool.or_false,
    Bool.not_false, Bool.and_true, Bool.false_eq_true, if_false]
  rw [Bool.or_comm]
  split <;> rfl

end Declaration

namespace IsPlainLonghand

/-- The name is read as one token, and so is the colon; what follows is read as on its own. -/
theorem tokenize_append (hn : IsPlainLonghand n) (v : String) :
    tokenize (n ++ ":" ++ v) = .ident n :: .colon :: tokenize v := by
  have hchars : Lexer.normalize (n ++ ":" ++ v).toList =
      n.toList ++ ':' :: Lexer.normalize v.toList := by
    have hnormal : ∀ c ∈ n.toList, IsNormal c := fun c hc =>
      isNormal_of_isNameChar (List.all_eq_true.1 hn.named c hc)
    have htext : (n ++ ":" ++ v).toList = n.toList ++ ':' :: v.toList := by simp
    rw [htext, normalize_append_of_isNormal hnormal]
    rfl
  have hends : EndsIdent (':' :: Lexer.normalize v.toList) := by
    rintro c ⟨⟩
    decide
  rw [tokenize, hchars, tokens_of_readName (startsName_extend hn.starts _)
    (readName_of_all (List.all_eq_true.1 hn.named) hends.endsName.readName) hends,
    tokens_single (by decide), String.ofList_toList]
  rfl

theorem propertyName_eq (hn : IsPlainLonghand n) : propertyName n = n := by
  have hupper : n.toList.any Char.isUpper = false := by
    rw [← hn.lower]
    simp only [Text.lower, String.toList_ofList, List.any_map, List.any_eq_false]
    exact fun c _ => isUpper_toLower c
  have hfloat : (n == "cssFloat") = false := by
    refine beq_false_of_ne ?_
    rintro rfl
    exact absurd hupper (by decide)
  simp [propertyName, hn.ordinary, hfloat, hupper]

end IsPlainLonghand

namespace DeclarationBlock

/-- A script's value for a longhand is stored in an empty block if it is a value at all. -/
theorem set_empty (hn : IsPlainLonghand n) (v : String) :
    empty.set n v "" = match valueText? v with
      | some w => (⟨[⟨n, w, false⟩]⟩, true)
      | none => (empty, false) := by
  have hname := hn.propertyName_eq
  have hexpand : ∀ w, expandable? n w = none := by simp [expandable?, hn.longhand]
  have hword : priority? "" = some false := by decide
  cases hv : valueText? v with
  | none => simp [set, hword, hname, assign, hv, empty, erase, size]
  | some w => simp [set, hword, hname, assign, hv, hexpand, put, find?, empty]

theorem ofDeclarations_longhand (hn : IsPlainLonghand n) (w : String) :
    ofDeclarations [⟨n, w, false⟩] = ⟨[⟨n, w, false⟩]⟩ := by
  simp [ofDeclarations, expansion, expandable?, hn.longhand, add, find?, empty]

/-- A text without semicolons holds one declaration at most. -/
theorem ofString_of_notMem {text : String} (h : .semicolon ∉ tokenize text) :
    ofString text = ofDeclarations (Declaration.ofTokens? (tokenize text)).toList := by
  have hpieces : splitOutside Declaration.opensGroup Declaration.closesGroup (· == .semicolon) 0
      (tokenize text) = [tokenize text] :=
    splitOutside_of_forall (fun t ht => by
      have : t ≠ .semicolon := fun heq => h (heq ▸ ht)
      simpa using this) 0
  rw [ofString, Declaration.listOfString, Declaration.listOfTokens_fst, hpieces]
  cases hread : Declaration.ofTokens? (tokenize text) <;> simp [hread]

/-- A script may set a value exactly where the declaration with it is read as a normal one and no
exclamation mark stands in it, and the text that is stored is the same. The block of a declaration
with neither an exclamation mark nor a semicolon in its value is the one that setting the value
gives. -/
theorem valueText?_eq_some_iff_ofString? (hn : IsPlainLonghand n) (v : String) :
    (∀ w, valueText? v = some w ↔
      Declaration.ofString? (n ++ ":" ++ v) = some ⟨n, w, false⟩ ∧ .delim '!' ∉ tokenize v) ∧
    (empty.set n v "" = match valueText? v with
      | some w => (⟨[⟨n, w, false⟩]⟩, true)
      | none => (empty, false)) ∧
    (.delim '!' ∉ tokenize v → .semicolon ∉ tokenize v →
      ofString (n ++ ":" ++ v) = (empty.set n v "").1) := by
  have hread (h : .delim '!' ∉ tokenize v) : Declaration.ofString? (n ++ ":" ++ v) =
      (valueText? v).map (⟨n, ·, false⟩) := by
    rw [Declaration.ofString?, hn.tokenize_append, Declaration.ofTokens?_of_notMem hn h]
  refine ⟨fun w => ⟨fun h => ?_, fun ⟨h, hmark⟩ => ?_⟩, set_empty hn v, fun hmark hsemi => ?_⟩
  · have hmark := notMem_of_valueText? h
    exact ⟨by rw [hread hmark, h]; rfl, hmark⟩
  · simpa [hread hmark] using h
  · have hsemi : .semicolon ∉ tokenize (n ++ ":" ++ v) := by
      simpa [hn.tokenize_append] using hsemi
    have hdeclared : Declaration.ofTokens? (tokenize (n ++ ":" ++ v)) =
        (valueText? v).map (⟨n, ·, false⟩) := hread hmark
    rw [ofString_of_notMem hsemi, hdeclared, set_empty hn v]
    cases valueText? v with
    | none => rfl
    | some w => exact ofDeclarations_longhand hn w

/-- A function with two arguments. -/
theorem valueText?_eq_some_iff_ofString?_color :
    IsPlainLonghand "color" ∧
    (valueText? " hsl(1, 2) " = some "hsl(1, 2)" ↔
      Declaration.ofString? "color: hsl(1, 2) " = some ⟨"color", "hsl(1, 2)", false⟩ ∧
        .delim '!' ∉ tokenize " hsl(1, 2) ") ∧
    (.delim '!' ∉ tokenize " hsl(1, 2) " ∧ .semicolon ∉ tokenize " hsl(1, 2) ") ∧
    ofString "color: hsl(1, 2) " = (empty.set "color" " hsl(1, 2) " "").1 := by
  have hn : IsPlainLonghand "color" := by decide +kernel
  have hmark : .delim '!' ∉ tokenize " hsl(1, 2) " := by decide +kernel
  have hsemi : .semicolon ∉ tokenize " hsl(1, 2) " := by decide +kernel
  have hcolor := valueText?_eq_some_iff_ofString? hn " hsl(1, 2) "
  exact ⟨hn, hcolor.1 "hsl(1, 2)", ⟨hmark, hsemi⟩, hcolor.2.2 hmark hsemi⟩

/-- A declaration may hold an exclamation mark inside a function, and a value on its own may not. -/
theorem not_valueText?_eq_some_iff_ofString? :
    ¬ ∀ n v w : String, IsPlainLonghand n →
      (valueText? v = some w ↔ Declaration.ofString? (n ++ ":" ++ v) = some ⟨n, w, false⟩) := by
  intro h
  have hread : Declaration.ofString? ("color" ++ ":" ++ "f(!)") = some ⟨"color", "f(!)", false⟩ := by
    decide +kernel
  have hvalue : valueText? "f(!)" = none := by decide +kernel
  simpa [hvalue] using (h "color" "f(!)" "f(!)" (by decide +kernel)).2 hread

end DeclarationBlock

end WebStyle
