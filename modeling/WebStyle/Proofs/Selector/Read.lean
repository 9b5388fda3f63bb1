import WebStyle.Proofs.Selector.Printed
import WebStyle.Proofs.Sequence
/-!
The tokens of a selector are read as the selector.
-/
set_option autoImplicit false

namespace WebStyle

open SelectorReader

variable {ts rest : List Token}

/-! ### Arguments -/

/-- Arguments are split off at the parenthesis that closes them. -/
theorem splitArguments?_append (h : Nested ts) (rest : List Token) :
    splitArguments? (ts ++ .closeParen :: rest) = some (ts, rest) := by
  have hopens : splitArguments? (ts ++ .closeParen :: rest) =
      splitAtClose? Token.opensArguments (· == .closeParen) 0 (ts ++ .closeParen :: rest) := by
    unfold splitArguments?
    congr 1
  rw [hopens, h.splitAtClose?]
  simp [splitAtClose?]

/-! ### Conditions -/

theorem readOperator?_tokens (o : AttributeOperator) (rest : List Token) :
    readOperator? (o.tokens ++ rest) = some (o, rest) := by
  cases o <;> rfl

theorem readComparison?_tokens (name : String) (operator : AttributeOperator) (value : String)
    (ignoreCase : Bool) (rest : List Token) :
    readComparison? name (operator.tokens ++ .string value ::
      ((if ignoreCase then [.blank, .ident "i"] else []) ++ .closeSquare :: rest)) =
      some (.compares name operator value ignoreCase, rest) := by
  cases ignoreCase with
  | false => simp [readComparison?, readOperator?_tokens, readValue?, readFlag?, Token.isBlank]
  | true =>
    have hskip : skipBlanks (.blank :: .ident "i" :: .closeSquare :: rest) =
        .ident "i" :: .closeSquare :: rest := rfl
    have hflag : Text.lower "i" = "i" := by decide
    simp [readComparison?, readOperator?_tokens, readValue?, readFlag?, Token.isBlank, hskip, hflag]

theorem readAttribute?_tokens {test : AttributeTest} (h : test.Valid) (rest : List Token) :
    ∃ r, test.tokens ++ rest = .openSquare :: r ∧ readAttribute? r = some (test, rest) := by
  cases test with
  | present name =>
    refine ⟨_, rfl, ?_⟩
    simp [readAttribute?, Token.isBlank, h.lower]
  | compares name operator value ignoreCase =>
    have hread := readComparison?_tokens name operator value ignoreCase rest
    refine ⟨_, rfl, ?_⟩
    obtain ⟨d, r, hd⟩ : ∃ d r, operator.tokens = .delim d :: r := by
      cases operator <;> exact ⟨_, _, rfl⟩
    rw [hd] at hread
    rw [List.cons_append] at hread
    simp [readAttribute?, Token.isBlank, h.1.lower, hd, hread]

namespace PseudoClass

theorem ofKey?_name (p : PseudoClass) : PseudoElement.ofKey? p.name = none := by
  cases p <;> simp only [name] <;> decide

theorem ofName?_name {p : PseudoClass} (h : p.formula? = none) : ofName? p.name = some p := by
  cases p <;> first | decide | simp [formula?] at h

theorem ofFormula?_name {p : PseudoClass} {f : Nth} (h : p.formula? = some f) :
    ofFormula? p.name f = some p := by
  cases p
  case nthChild | nthLastChild | nthOfType | nthLastOfType =>
    obtain rfl := Option.some.inj h
    simp only [name]
    rfl
  all_goals simp [formula?] at h

theorem name_ne_not (p : PseudoClass) : Text.sameIgnoringCase p.name "not" = false := by
  cases p <;> simp only [name] <;> decide

end PseudoClass

theorem readCondition?_tokens {c : Condition} (h : c.Valid) (htype : c.isType = false)
    (rest : List Token) : readCondition? (c.tokens ++ rest) = some (c, rest) := by
  cases c with
  | type name => simp [Condition.isType] at htype
  | universal => simp [Condition.isType] at htype
  | id name => rfl
  | hasClass name => rfl
  | «attribute» test =>
    obtain ⟨r, hr, hread⟩ := readAttribute?_tokens h rest
    simp only [Condition.tokens, hr, readCondition?, hread, Option.map_some]
  | pseudoClass p =>
    cases hf : p.formula? with
    | none =>
      simp [Condition.tokens, PseudoClass.tokens, hf, readCondition?, p.ofKey?_name,
        PseudoClass.ofName?_name hf]
    | some f =>
      have hargs := splitArguments?_append f.piece_tokens.nested rest
      simp [Condition.tokens, PseudoClass.tokens, hf, readCondition?, hargs,
        f.piece_tokens.tight.trimBlanks, Nth.ofTokens?_tokens (h f hf),
          PseudoClass.ofFormula?_name hf]

theorem readConditions?_tokens {cs : List Condition} (h : ∀ c ∈ cs, c.Valid)
    (htypes : ∀ c ∈ cs, c.isType = false) :
    readConditions? (cs.flatMap Condition.tokens) = some cs := by
  induction cs with
  | nil => simp [readConditions?]
  | cons c cs ih =>
    have hread := readCondition?_tokens (h c List.mem_cons_self) (htypes c List.mem_cons_self)
      (cs.flatMap Condition.tokens)
    have hmore := ih (fun d hd => h d (List.mem_cons_of_mem c hd))
      fun d hd => htypes d (List.mem_cons_of_mem c hd)
    have hne : c.tokens ++ cs.flatMap Condition.tokens ≠ [] := by
      intro hnil
      rw [hnil] at hread
      simp [readCondition?] at hread
    rw [List.flatMap_cons, readConditions?, if_neg (by simpa using hne)]
    split
    · simp_all
    · rename_i d r heq
      obtain ⟨rfl, rfl⟩ := Prod.mk.inj (Option.some.inj (hread.symm.trans heq))
      rw [hmore, Option.map_some]

/-! ### Simple selectors -/

namespace Condition

theorem piece_tokens (c : Condition) : Piece c.tokens := by
  have hplain : ∀ {ts : List Token}, ts ≠ [] → ts.all Token.isPlain → Piece ts := fun hne hts =>
    .of_plain hne (List.all_eq_true.1 hts)
  cases c with
  | type name | universal | id name | hasClass name => exact hplain (List.cons_ne_nil _ _) rfl
  | «attribute» test =>
    cases test with
    | present name => exact .group rfl (.atom rfl rfl .nil) (by simp)
    | compares name operator value ignoreCase =>
      have hoperator : operator.tokens.all Token.isPlain := by
        cases operator <;> rfl
      have hlead : Piece (.ident name :: (operator.tokens ++ [.string value])) :=
        hplain (List.cons_ne_nil _ _) (by simp [hoperator]; exact ⟨rfl, rfl⟩)
      have hflag : Nested (if ignoreCase then [.blank, .ident "i"] else []) ∧
          Token.comma ∉ if ignoreCase then [.blank, .ident "i"] else [] := by
        cases ignoreCase with
        | false => exact ⟨.nil, List.not_mem_nil⟩
        | true => exact ⟨.atom rfl rfl (.atom rfl rfl .nil), by simp⟩
      have := Piece.group (o := .openSquare) rfl (hlead.nested.append hflag.1) fun hc =>
        (List.mem_append.1 hc).elim hlead.noComma hflag.2
      simpa [tokens, AttributeTest.tokens] using this
  | pseudoClass p =>
    have hcolon : Piece [.colon] := hplain (List.cons_ne_nil _ _) rfl
    cases hf : p.formula? with
    | none =>
      have htokens : p.tokens = [.colon, .ident p.name] := by simp [PseudoClass.tokens, hf]
      rw [tokens, htokens]
      exact hplain (List.cons_ne_nil _ _) rfl
    | some f =>
      have htokens : p.tokens = [.colon] ++ .function p.name :: (f.tokens ++ [.closeParen]) := by
        simp [PseudoClass.tokens, hf]
      rw [tokens, htokens]
      exact hcolon.append (.group rfl f.piece_tokens.nested f.piece_tokens.noComma)

/-- What every condition but one on the type starts with. -/
theorem head_tokens {c : Condition} (h : c.isType = false) :
    ∃ t r, c.tokens = t :: r ∧ continuesCompound t ∧
      ∀ rest, readType (t :: rest) = ([], t :: rest) := by
  cases c with
  | type name => simp [isType] at h
  | universal => simp [isType] at h
  | id name | hasClass name => exact ⟨_, _, rfl, rfl, fun _ => rfl⟩
  | «attribute» test => cases test <;> exact ⟨_, _, rfl, rfl, fun _ => rfl⟩
  | pseudoClass p => exact ⟨_, _, rfl, rfl, fun _ => rfl⟩

end Condition

/-- What a negation negates is read back. -/
theorem readNegated?_tokens {cs : List Condition} (hne : cs ≠ []) (h : ∀ c ∈ cs, c.Valid)
    (htypes : ∀ c ∈ cs.tail, c.isType = false) :
    readNegated? (cs.flatMap Condition.tokens) = some cs := by
  cases cs with
  | nil => exact absurd rfl hne
  | cons c cs =>
    cases htype : c.isType with
    | true =>
      have hmore := readConditions?_tokens (fun d hd => h d (List.mem_cons_of_mem c hd)) htypes
      have hc := h c List.mem_cons_self
      cases c with
      | type name => simp [readNegated?, Condition.tokens, readType, hmore, hc.lower]
      | universal => simp [readNegated?, Condition.tokens, readType, hmore]
      | _ => simp [Condition.isType] at htype
    | false =>
      have hall := readConditions?_tokens h fun d hd => by
        rcases List.mem_cons.1 hd with rfl | hd
        · exact htype
        · exact htypes d hd
      obtain ⟨t, r, htokens, -, hread⟩ := Condition.head_tokens htype
      rw [List.flatMap_cons, htokens, List.cons_append] at hall ⊢
      simp [readNegated?, hread, hall]

namespace SimpleSelector

variable {s : SimpleSelector}

theorem piece_tokens (h : s.Valid) : Piece s.tokens := by
  cases s with
  | plain c => exact c.piece_tokens
  | negation cs =>
    have hcs : Piece (cs.flatMap Condition.tokens) := .flatMap h.1 fun c _ => c.piece_tokens
    have hcolon : Piece [.colon] := .of_plain (List.cons_ne_nil _ _) (by simp; rfl)
    exact hcolon.append (.group rfl hcs.nested hcs.noComma)

/-- What every simple selector but one on the type starts with. -/
theorem head_tokens (h : s.isType = false) :
    ∃ t r, s.tokens = t :: r ∧ continuesCompound t ∧
      ∀ rest, readType (t :: rest) = ([], t :: rest) := by
  cases s with
  | plain c => exact Condition.head_tokens h
  | negation cs => exact ⟨_, _, rfl, rfl, fun _ => rfl⟩

/-- No pseudo-element is read where a simple selector stands. -/
theorem readElement?_tokens (h : s.isType = false) (rest : List Token) :
    readElement? (s.tokens ++ rest) = none := by
  cases s with
  | plain c =>
    cases c with
    | type name | universal => simp [isType, Condition.isType] at h
    | id name | hasClass name => rfl
    | «attribute» test => cases test <;> rfl
    | pseudoClass p =>
      cases hf : p.formula? with
      | none =>
        simp [tokens, Condition.tokens, PseudoClass.tokens, hf, readElement?, p.ofKey?_name]
      | some f => simp [tokens, Condition.tokens, PseudoClass.tokens, hf, readElement?]
  | negation cs => rfl

end SimpleSelector

/-- Every simple selector that is no type is read back. -/
theorem readSimple?_tokens {s : SimpleSelector} (h : s.Valid) (htype : s.isType = false)
    (rest : List Token) : readSimple? (s.tokens ++ rest) = some (s, rest) := by
  cases s with
  | plain c =>
    have hread := readCondition?_tokens (c := c) h htype rest
    have hplain : readSimple? (c.tokens ++ rest) =
        (readCondition? (c.tokens ++ rest)).map fun p => (.plain p.1, p.2) := by
      cases c with
      | type name | universal => simp [SimpleSelector.isType, Condition.isType] at htype
      | id name | hasClass name => rfl
      | «attribute» test => cases test <;> rfl
      | pseudoClass p =>
        cases hf : p.formula? with
        | none => simp [Condition.tokens, PseudoClass.tokens, hf, readSimple?]
        | some f => simp [Condition.tokens, PseudoClass.tokens, hf, readSimple?, p.name_ne_not]
    rw [SimpleSelector.tokens, hplain, hread, Option.map_some]
  | negation cs =>
    obtain ⟨hne, hvalid, htypes⟩ := h
    have hcs : Piece (cs.flatMap Condition.tokens) := .flatMap hne fun c _ => c.piece_tokens
    have hname : Text.sameIgnoringCase "not" "not" = true := by decide
    simp [SimpleSelector.tokens, readSimple?, hname, splitArguments?_append hcs.nested,
      hcs.tight.trimBlanks, readNegated?_tokens hne hvalid htypes]

/-- Whether no simple selector goes on with the tokens: they start with a pseudo-element, or with
nothing that belongs to a compound selector. -/
def EndsSimples (ts : List Token) : Prop :=
  (∀ t ∈ ts.head?, continuesCompound t = false) ∨ (readElement? ts).isSome

theorem readSimples?_tokens {simples : List SimpleSelector} (h : ∀ s ∈ simples, s.Valid)
    (htypes : ∀ s ∈ simples, s.isType = false) (hrest : EndsSimples rest) :
    readSimples? (simples.flatMap SimpleSelector.tokens ++ rest) = some (simples, rest) := by
  induction simples with
  | nil =>
    have hends : (!rest.head?.any continuesCompound || (readElement? rest).isSome) = true := by
      rcases hrest with hhead | helement
      · cases rest with
        | nil => rfl
        | cons t r => simp [hhead t rfl]
      · simp [helement]
    rw [List.flatMap_nil, List.nil_append, readSimples?, if_pos hends]
  | cons s simples ih =>
    have hread := readSimple?_tokens (h s List.mem_cons_self) (htypes s List.mem_cons_self)
      (simples.flatMap SimpleSelector.tokens ++ rest)
    have helement := SimpleSelector.readElement?_tokens (htypes s List.mem_cons_self)
      (simples.flatMap SimpleSelector.tokens ++ rest)
    have hmore := ih (fun t ht => h t (List.mem_cons_of_mem s ht))
      fun t ht => htypes t (List.mem_cons_of_mem s ht)
    obtain ⟨t, r, htokens, hcontinues, -⟩ :=
      SimpleSelector.head_tokens (htypes s List.mem_cons_self)
    have hhead : (s.tokens ++ (simples.flatMap SimpleSelector.tokens ++ rest)).head? = some t := by
      rw [htokens]
      rfl
    rw [List.flatMap_cons, List.append_assoc, readSimples?,
      if_neg (by simp [helement, hhead, hcontinues])]
    split
    · simp_all
    · rename_i u r heq
      obtain ⟨rfl, rfl⟩ := Prod.mk.inj (Option.some.inj (hread.symm.trans heq))
      rw [hmore, Option.map_some]

/-! ### Compound selectors -/

theorem PseudoElement.ofKey?_name (p : PseudoElement) : ofKey? p.name = some p := by
  cases p <;> decide

namespace CompoundSelector

variable {c : CompoundSelector}

/-- Whether tokens may follow a whole compound selector. -/
def EndsCompound (ts : List Token) : Prop := ∀ t ∈ ts.head?, t = .blank

theorem readElement?_tokens (c : CompoundSelector) (hrest : EndsCompound rest) :
    readElement? (c.elementTokens ++ rest) = c.pseudoElement.map (·, rest) := by
  unfold elementTokens
  cases c.pseudoElement with
  | none =>
    cases rest with
    | nil => rfl
    | cons t r =>
      obtain rfl := hrest t rfl
      rfl
  | some p => simp [readElement?, p.ofKey?_name]

/-- What stands before a pseudo-element or the end of a compound selector. -/
theorem endsSimples (c : CompoundSelector) (hrest : EndsCompound rest) :
    EndsSimples (c.elementTokens ++ rest) := by
  have helement := c.readElement?_tokens hrest
  cases hp : c.pseudoElement with
  | none =>
    refine .inl fun t ht => ?_
    have hnil : c.elementTokens = [] := by simp [elementTokens, hp]
    rw [hnil] at ht
    rw [hrest t ht]
    rfl
  | some p =>
    refine .inr ?_
    rw [helement, hp]
    rfl

/-- No namespace goes before simple selectors. -/
theorem head_ne_bar {simples : List SimpleSelector} (htypes : ∀ s ∈ simples, s.isType = false)
    (c : CompoundSelector) (hrest : EndsCompound rest) :
    (simples.flatMap SimpleSelector.tokens ++ (c.elementTokens ++ rest)).head? ≠
      some (.delim '|') := by
  cases simples with
  | cons s simples =>
    obtain ⟨t, r, htokens, hcontinues, -⟩ :=
      SimpleSelector.head_tokens (htypes s List.mem_cons_self)
    simp only [List.flatMap_cons, htokens, List.cons_append, List.head?_cons, ne_eq,
      Option.some.injEq]
    rintro rfl
    simp [continuesCompound] at hcontinues
  | nil =>
    unfold elementTokens
    cases c.pseudoElement with
    | some p => simp
    | none =>
      intro hbar
      simpa using hrest _ hbar

theorem readCompound?_of_readSimples? {ts r r' : List Token} {first : List Condition}
    {more : List SimpleSelector} (htype : readType ts = (first, r))
    (hbar : r.head? ≠ some (.delim '|')) (hsimples : readSimples? r = some (more, r')) :
    readCompound? ts =
      match readElement? r' with
      | some (p, r) =>
        if r.head?.any continuesCompound then none else some (⟨first.map .plain ++ more, some p⟩, r)
      | none =>
        if (first.map SimpleSelector.plain ++ more).isEmpty then none
        else some (⟨first.map .plain ++ more, none⟩, r') := by
  cases h : readElement? r' <;> simp [readCompound?, htype, hbar, hsimples, h]

theorem readCompound?_of_readType {ts : List Token} (first : List Condition)
    {more : List SimpleSelector} (hsimples : c.simples = first.map .plain ++ more) (h : c.Valid)
    (hmore : ∀ s ∈ more, s.isType = false) (hrest : EndsCompound rest)
    (htype : readType ts =
      (first, more.flatMap SimpleSelector.tokens ++ (c.elementTokens ++ rest))) :
    readCompound? ts = some (c, rest) := by
  have hread := readSimples?_tokens (fun s hs => h.simples s (by simp [hsimples, hs])) hmore
    (c.endsSimples hrest)
  have helement := c.readElement?_tokens hrest
  rw [readCompound?_of_readSimples? htype (head_ne_bar hmore c hrest) hread, helement, ← hsimples]
  cases hp : c.pseudoElement with
  | some p =>
    have hcontinues : rest.head?.any continuesCompound = false := by
      cases rest with
      | nil => rfl
      | cons t r =>
        rw [hrest t rfl]
        rfl
    have hc : (⟨c.simples, some p⟩ : CompoundSelector) = c := by rw [← hp]
    simp [hcontinues, hc]
  | none =>
    have hne := h.nonempty.resolve_right (by simp [hp])
    have hnil : c.elementTokens = [] := by simp [elementTokens, hp]
    have hc : (⟨c.simples, none⟩ : CompoundSelector) = c := by rw [← hp]
    simp [hne, hnil, hc]

/-- The tokens of a compound selector are read as the compound selector. -/
theorem readCompound?_tokens (h : c.Valid) (hrest : EndsCompound rest) :
    readCompound? (c.tokens ++ rest) = some (c, rest) := by
  have htokens : c.tokens ++ rest =
      c.simples.flatMap SimpleSelector.tokens ++ (c.elementTokens ++ rest) := by
    rw [tokens, List.append_assoc]
  cases hsimples : c.simples with
  | nil =>
    refine readCompound?_of_readType [] hsimples h (by simp) hrest ?_
    obtain ⟨p, hp⟩ := Option.isSome_iff_exists.1 (h.nonempty.resolve_left fun hne => hne hsimples)
    rw [htokens, hsimples]
    simp [elementTokens, hp, readType]
  | cons s more =>
    have hmore : ∀ t ∈ more, t.isType = false := by
      have := h.types
      rwa [hsimples] at this
    cases htype : s.isType with
    | false =>
      refine readCompound?_of_readType [] hsimples h (fun t ht => ?_) hrest ?_
      · rcases List.mem_cons.1 ht with rfl | ht
        · exact htype
        · exact hmore t ht
      · obtain ⟨t, r, hs, -, hread⟩ := SimpleSelector.head_tokens htype
        rw [htokens, hsimples, List.flatMap_cons, hs]
        exact hread _
    | true =>
      have hvalid := h.simples s (by simp [hsimples])
      cases s with
      | negation cs => simp [SimpleSelector.isType] at htype
      | plain d =>
        refine readCompound?_of_readType [d] hsimples h hmore hrest ?_
        rw [htokens, hsimples, List.flatMap_cons]
        cases d with
        | type name =>
          simp [SimpleSelector.tokens, Condition.tokens, readType, hvalid.lower]
        | universal => simp [SimpleSelector.tokens, Condition.tokens, readType]
        | _ => simp [SimpleSelector.isType, Condition.isType] at htype

theorem piece_tokens (h : c.Valid) : Piece c.tokens := by
  have helement : ∀ p : PseudoElement, Piece [.colon, .colon, .ident p.name] := fun p =>
    .of_plain (List.cons_ne_nil _ _) (List.all_eq_true.1 rfl)
  have hsimples : c.simples ≠ [] → Piece (c.simples.flatMap SimpleSelector.tokens) := fun hne =>
    .flatMap hne fun s hs => SimpleSelector.piece_tokens (h.simples s hs)
  unfold tokens elementTokens
  cases hp : c.pseudoElement with
  | none =>
    have hne := h.nonempty.resolve_right (by simp [hp])
    simpa using hsimples hne
  | some p =>
    by_cases hne : c.simples = []
    · simpa [hne] using helement p
    · exact (hsimples hne).append (helement p)

end CompoundSelector

/-! ### Selectors and lists of them -/

theorem Combinator.piece_between (k : Combinator) : Nested k.tokens ∧ .comma ∉ k.tokens := by
  cases k with
  | descendant => exact ⟨.atom rfl rfl .nil, by simp [tokens]⟩
  | child | nextSibling | laterSibling =>
    exact ⟨.atom rfl rfl (.atom rfl rfl (.atom rfl rfl .nil)), by simp [tokens]⟩

theorem Combinator.endsCompound (k : Combinator) (rest : List Token) :
    CompoundSelector.EndsCompound (k.tokens ++ rest) := by
  cases k <;>
  · rintro t ⟨⟩
    rfl

/-- A combinator is read before what starts a compound selector. -/
theorem readCombinator?_tokens (k : Combinator) {t : Token} (ht : continuesCompound t)
    (r : List Token) : readCombinator? (k.tokens ++ t :: r) = some (k, t :: r) := by
  have hblank : t.isBlank = false := by
    cases t <;> first | rfl | simp [continuesCompound] at ht
  have hskip := skipBlanks_cons hblank r
  cases k with
  | descendant =>
    simp only [Combinator.tokens, List.singleton_append, readCombinator?, skipBlanks_blank, hskip]
    split
    · rename_i heq
      simp [(List.cons.inj heq).1, continuesCompound] at ht
    · rename_i heq
      simp [(List.cons.inj heq).1, continuesCompound] at ht
    · rename_i heq
      simp [(List.cons.inj heq).1, continuesCompound] at ht
    · rfl
  | child | nextSibling | laterSibling =>
    change some (_, skipBlanks (t :: r)) = _
    rw [hskip]

theorem CompoundSelector.head_tokens {c : CompoundSelector} (h : c.Valid) :
    ∃ t r, c.tokens = t :: r ∧ continuesCompound t := by
  cases hsimples : c.simples with
  | nil =>
    obtain ⟨p, hp⟩ := Option.isSome_iff_exists.1 (h.nonempty.resolve_left fun hne => hne hsimples)
    have htokens : c.tokens = [.colon, .colon, .ident p.name] := by
      simp [tokens, hsimples, elementTokens, hp]
    exact ⟨_, _, htokens, rfl⟩
  | cons s more =>
    have hs : ∃ t r, s.tokens = t :: r ∧ continuesCompound t := by
      cases htype : s.isType with
      | false =>
        obtain ⟨t, r, hs, ht, -⟩ := SimpleSelector.head_tokens htype
        exact ⟨t, r, hs, ht⟩
      | true =>
        cases s with
        | negation cs => exact ⟨_, _, rfl, rfl⟩
        | plain d =>
          cases d with
          | type name | universal => exact ⟨_, _, rfl, rfl⟩
          | _ => simp [SimpleSelector.isType, Condition.isType] at htype
    obtain ⟨t, r, hs, ht⟩ := hs
    exact ⟨t, r ++ (more.flatMap SimpleSelector.tokens ++ c.elementTokens), by
      simp [tokens, hsimples, hs], ht⟩

namespace ComplexSelector

variable {s : ComplexSelector}

theorem piece_tokens (h : s.Valid) : Piece s.tokens := by
  induction s using extend_induction with
  | single c => exact c.piece_tokens h.subject
  | extend s k c ih =>
    obtain ⟨hs, -, hc⟩ := h.of_extend
    exact (ih hs).sandwich (c.piece_tokens hc) k.piece_between.1 k.piece_between.2

/-- Reading the tokens of a selector comes to reading on with it as what was read. -/
theorem readLinks?_tokens (h : s.Valid) (hrest : CompoundSelector.EndsCompound rest) :
    ((readCompound? (s.tokens ++ rest)).bind fun p => readLinks? ⟨p.1, []⟩ p.2) =
      readLinks? s rest := by
  induction s using extend_induction generalizing rest with
  | single c =>
    have hread := CompoundSelector.readCompound?_tokens h.subject hrest
    rw [show (⟨c, []⟩ : ComplexSelector).tokens = c.tokens from rfl, hread, Option.bind_some]
  | extend s k c ih =>
    obtain ⟨hs, hnone, hc⟩ := h.of_extend
    obtain ⟨t, r, htokens, ht⟩ := c.head_tokens hc
    have hcombinator := readCombinator?_tokens k ht (r ++ rest)
    have hcompound := CompoundSelector.readCompound?_tokens hc hrest
    rw [tokens_extend, List.append_assoc, List.append_assoc, ih hs (k.endsCompound _)]
    rw [htokens, List.cons_append] at hcompound ⊢
    have hne : (skipBlanks (k.tokens ++ t :: (r ++ rest))).isEmpty = false := by
      cases hskip : skipBlanks (k.tokens ++ t :: (r ++ rest)) with
      | nil => simp [readCombinator?, hskip] at hcombinator
      | cons u us => rfl
    rw [readLinks?, if_neg (by simp [hne]), if_neg (by simp [hnone])]
    split
    · simp_all
    · rename_i heq
      obtain ⟨rfl, rfl⟩ := Prod.mk.inj (Option.some.inj (hcombinator.symm.trans heq))
      split
      · simp_all
      · rename_i heq
        obtain ⟨rfl, rfl⟩ := Prod.mk.inj (Option.some.inj (hcompound.symm.trans heq))
        rfl

theorem ofTokens?_tokens (h : s.Valid) : ofTokens? s.tokens = some s := by
  have hends : CompoundSelector.EndsCompound [] := by simp [CompoundSelector.EndsCompound]
  have hread := readLinks?_tokens h hends
  have hend : readLinks? s [] = some s := by
    rw [readLinks?]
    rfl
  rw [List.append_nil, hend] at hread
  exact hread

end ComplexSelector

namespace SelectorList

/-- The commas of printed selectors cut them apart. -/
theorem splitOutside_tokens {l : SelectorList} {s : ComplexSelector} (hs : s.Valid)
    (h : ∀ t ∈ l, t.Valid) :
    splitOutside Token.opensGroup Token.closesGroup (· == .comma) 0 (SelectorList.tokens (s :: l)) =
      s.tokens :: l.map fun t => .blank :: t.tokens := by
  have hsep : ∀ {s : ComplexSelector}, s.Valid → ∀ t ∈ s.tokens, (t == .comma) = false := by
    intro s hs t ht
    refine beq_eq_false_iff_ne.2 ?_
    rintro rfl
    exact (ComplexSelector.piece_tokens hs).noComma ht
  have hnested := (ComplexSelector.piece_tokens hs).nested
  induction l generalizing s with
  | nil =>
    have hnil : splitOutside Token.opensGroup Token.closesGroup (· == .comma) 0 [] = [[]] := rfl
    simpa [tokens] using hnested.splitOutside (hsep hs) hnil
  | cons t l ih =>
    have ht := h t List.mem_cons_self
    have hl := ih ht (fun u hu => h u (List.mem_cons_of_mem t hu))
      (ComplexSelector.piece_tokens ht).nested
    have hblank : splitOutside Token.opensGroup Token.closesGroup (· == .comma) 0
        (.blank :: SelectorList.tokens (t :: l)) =
          (.blank :: t.tokens) :: l.map fun t => .blank :: t.tokens :=
      splitOutside_cons rfl hl
    have htokens : SelectorList.tokens (s :: t :: l) =
        s.tokens ++ .comma :: .blank :: SelectorList.tokens (t :: l) := by
      simp [tokens]
    have hcomma : splitOutside Token.opensGroup Token.closesGroup (· == .comma) 0
        (.comma :: .blank :: SelectorList.tokens (t :: l)) =
          [] :: (.blank :: t.tokens) :: l.map fun t => .blank :: t.tokens := by
      rw [splitOutside, hblank]
      rfl
    simpa [htokens] using hnested.splitOutside (hsep hs) hcomma

/-- The tokens of a list of selectors are read as the list. -/
theorem ofTokens?_tokens {l : SelectorList} (hne : l ≠ []) (h : ∀ s ∈ l, s.Valid) :
    ofTokens? (SelectorList.tokens l) = some l := by
  cases l with
  | nil => exact absurd rfl hne
  | cons s l =>
    have hs := h s List.mem_cons_self
    have hl : ∀ t ∈ l, t.Valid := fun t ht => h t (List.mem_cons_of_mem s ht)
    have hmore : (l.map fun t => Token.blank :: t.tokens).mapM
        (fun piece => ComplexSelector.ofTokens? (trimBlanks piece)) = some l :=
      mapM_map fun t ht => by
        rw [(ComplexSelector.piece_tokens (hl t ht)).tight.trimBlanks_blank,
          ComplexSelector.ofTokens?_tokens (hl t ht)]
    rw [ofTokens?, splitOutside_tokens hs hl, List.mapM_cons, hmore,
      (ComplexSelector.piece_tokens hs).tight.trimBlanks, ComplexSelector.ofTokens?_tokens hs]
    rfl

/-- Printed selectors are read back as they were. -/
theorem ofString?_text {l : SelectorList} (hne : l ≠ []) (h : ∀ s ∈ l, s.Valid) :
    ofString? (SelectorList.text l) = some l := by
  rw [ofString?, tokenize_text h, ofTokens?_tokens hne h]

end SelectorList

end WebStyle
