import WebStyle.Selector.Printer
/-!
Reading selectors from tokens. Every reader returns nothing for a selector that is not valid, and
one invalid selector makes the whole list invalid.
-/
set_option autoImplicit false

namespace WebStyle
namespace SelectorReader

/-- The operator before a value in square brackets. -/
def readOperator? : List Token → Option (AttributeOperator × List Token)
  | .delim '=' :: r => some (.equals, r)
  | .delim '~' :: .delim '=' :: r => some (.includes, r)
  | .delim '|' :: .delim '=' :: r => some (.dashMatch, r)
  | .delim '^' :: .delim '=' :: r => some (.startsWith, r)
  | .delim '$' :: .delim '=' :: r => some (.endsWith, r)
  | .delim '*' :: .delim '=' :: r => some (.contains, r)
  | _ => none

/-- The flag after a value, which tells whether the comparison ignores case; without one it does
not. -/
def readFlag? : List Token → Option (Bool × List Token)
  | .ident flag :: r =>
    match Text.lower flag with
    | "i" => some (true, skipBlanks r)
    | "s" => some (false, skipBlanks r)
    | _ => none
  | r => some (false, r)

/-- The value of a comparison, with the blanks after it. -/
def readValue? : List Token → Option (String × List Token)
  | .ident value :: r | .string value :: r => some (value, skipBlanks r)
  | _ => none

/-- What a test compares an attribute with, from the operator to the closing bracket. -/
def readComparison? (name : String) (ts : List Token) : Option (AttributeTest × List Token) := do
  let (operator, r) ← readOperator? ts
  let (value, r) ← readValue? (skipBlanks r)
  let (ignoreCase, r) ← readFlag? r
  match r with
  | .closeSquare :: r => some (.compares name operator value ignoreCase, r)
  | _ => none

/-- An attribute test, after its opening bracket. -/
def readAttribute? (ts : List Token) : Option (AttributeTest × List Token) :=
  match skipBlanks ts with
  | .ident name :: r =>
    match skipBlanks r with
    | .closeSquare :: r => some (.present (Text.lower name), r)
    | r => readComparison? (Text.lower name) r
  | _ => none

/-- The arguments of a function whose name was already taken, and what follows its parenthesis. -/
def splitArguments? (ts : List Token) : Option (List Token × List Token) :=
  splitAtClose? (fun t => t matches .function _ | .openParen) (· == .closeParen) 0 ts

/-- A condition that is no type: an id, a class, an attribute test, or a pseudo-class other than
the negation. -/
def readCondition? : List Token → Option (Condition × List Token)
  | .hash name true :: r => some (.id name, r)
  | .delim '.' :: .ident name :: r => some (.hasClass name, r)
  | .openSquare :: r => (readAttribute? r).map fun (test, r) => (.attribute test, r)
  | .colon :: .ident name :: r =>
    if (PseudoElement.ofKey? name).isSome then none
    else (PseudoClass.ofName? name).map fun p => (.pseudoClass p, r)
  | .colon :: .function name :: r => do
    let (args, r) ← splitArguments? r
    let p ← PseudoClass.ofFormula? name (← Nth.ofTokens? (trimBlanks args))
    some (.pseudoClass p, r)
  | _ => none

theorem readOperator?_length_lt {ts : List Token} {p : AttributeOperator × List Token}
    (h : readOperator? ts = some p) : p.2.length < ts.length := by
  unfold readOperator? at h
  split at h <;> simp_all <;> grind

theorem readFlag?_length_le {ts : List Token} {p : Bool × List Token}
    (h : readFlag? ts = some p) : p.2.length ≤ ts.length := by
  unfold readFlag? at h
  split at h
  · rename_i flag r
    have := skipBlanks_length_le r
    split at h <;> simp_all <;> grind
  · simp_all; grind

theorem readValue?_length_lt {ts : List Token} {p : String × List Token}
    (h : readValue? ts = some p) : p.2.length < ts.length := by
  unfold readValue? at h
  split at h
  case h_3 => simp at h
  all_goals
    rename_i value r
    have := skipBlanks_length_le r
    simp_all
    grind

theorem readComparison?_length_lt {name : String} {ts : List Token} {p : AttributeTest × List Token}
    (h : readComparison? name ts = some p) : p.2.length < ts.length := by
  simp only [readComparison?, Option.bind_eq_bind, Option.bind_eq_some_iff] at h
  obtain ⟨⟨operator, r1⟩, ho, ⟨value, r2⟩, hv, ⟨ignoreCase, r3⟩, hf, h⟩ := h
  have h1 := readOperator?_length_lt ho
  have h2 := skipBlanks_length_le r1
  have h3 := readValue?_length_lt hv
  have h4 := readFlag?_length_le hf
  split at h
  · simp_all; grind
  · simp at h

theorem readAttribute?_length_lt {ts : List Token} {p : AttributeTest × List Token}
    (h : readAttribute? ts = some p) : p.2.length < ts.length := by
  have h1 := skipBlanks_length_le ts
  unfold readAttribute? at h
  split at h
  · rename_i name r heq
    have h2 := skipBlanks_length_le r
    split at h
    · simp_all; grind
    · have h3 := readComparison?_length_lt h
      simp_all; omega
  · simp at h

theorem readCondition?_length_lt {ts : List Token} {p : Condition × List Token}
    (h : readCondition? ts = some p) : p.2.length < ts.length := by
  unfold readCondition? at h
  split at h
  · simp_all; grind
  · simp_all; grind
  · obtain ⟨q, hq, rfl⟩ := Option.map_eq_some_iff.1 h
    have := readAttribute?_length_lt hq
    simp; omega
  · split at h
    · simp at h
    · obtain ⟨q, hq, rfl⟩ := Option.map_eq_some_iff.1 h
      simp only [List.length_cons]
      omega
  · simp only [Option.bind_eq_bind, Option.bind_eq_some_iff] at h
    obtain ⟨⟨args, r⟩, hs, f, _, c, _, hp⟩ := h
    have := splitAtClose?_length_lt hs
    simp_all; grind
  · simp at h

/-- Conditions up to the end. -/
def readConditions? (ts : List Token) : Option (List Condition) :=
  if ts.isEmpty then some []
  else
    match h : readCondition? ts with
    | none => none
    | some (c, r) =>
      have : r.length < ts.length := readCondition?_length_lt h
      (readConditions? r).map (c :: ·)
  termination_by ts.length

/-- A type or a star, where there is one. -/
def readType : List Token → List Condition × List Token
  | .ident name :: r => ([.type (Text.lower name)], r)
  | .delim '*' :: r => ([.universal], r)
  | r => ([], r)

/-- What a negation negates: conditions for one element that take up all of its argument. -/
def readNegated? (args : List Token) : Option (List Condition) := do
  let (type, r) := readType args
  let all := type ++ (← readConditions? r)
  if all.isEmpty then none else some all

/-- A simple selector that is no type. -/
def readSimple? (ts : List Token) : Option (SimpleSelector × List Token) :=
  match ts with
  | .colon :: .function name :: r =>
    if Text.sameIgnoringCase name "not" then do
      let (args, r) ← splitArguments? r
      let cs ← readNegated? (trimBlanks args)
      some (.negation cs, r)
    else (readCondition? ts).map fun (c, r) => (.plain c, r)
  | ts => (readCondition? ts).map fun (c, r) => (.plain c, r)

/-- A pseudo-element, with one colon or two. -/
def readElement? : List Token → Option (PseudoElement × List Token)
  | .colon :: .colon :: .ident name :: r => (PseudoElement.ofKey? name).map (·, r)
  | .colon :: .ident name :: r => (PseudoElement.ofKey? name).map (·, r)
  | _ => none

/-- Whether a token may not follow a complete compound selector at once. -/
def continuesCompound : Token → Bool
  | .hash _ _ | .delim '.' | .openSquare | .colon | .ident _ | .delim '*' => true
  | _ => false

theorem readSimple?_length_lt {ts : List Token} {p : SimpleSelector × List Token}
    (h : readSimple? ts = some p) : p.2.length < ts.length := by
  unfold readSimple? at h
  split at h
  · split at h
    · simp only [Option.bind_eq_bind, Option.bind_eq_some_iff] at h
      obtain ⟨⟨args, r⟩, hs, cs, _, hp⟩ := h
      have := splitAtClose?_length_lt hs
      simp_all; grind
    · obtain ⟨q, hq, rfl⟩ := Option.map_eq_some_iff.1 h
      exact readCondition?_length_lt hq
  · obtain ⟨q, hq, rfl⟩ := Option.map_eq_some_iff.1 h
    exact readCondition?_length_lt hq

/-- Simple selectors up to a pseudo-element, or to a token that continues no compound selector. -/
def readSimples? (ts : List Token) : Option (List SimpleSelector × List Token) :=
  if !ts.head?.any continuesCompound || (readElement? ts).isSome then some ([], ts)
  else
    match h : readSimple? ts with
    | none => none
    | some (s, r) =>
      have : r.length < ts.length := readSimple?_length_lt h
      (readSimples? r).map fun (more, rest) => (s :: more, rest)
  termination_by ts.length

/-- A compound selector: a type, then other simple selectors, then a pseudo-element, of which at
least one is there. Namespaces are not supported. -/
def readCompound? (ts : List Token) : Option (CompoundSelector × List Token) := do
  let (type, r) := readType ts
  if r.head? == some (.delim '|') then none
  let (more, r) ← readSimples? r
  let simples := type.map .plain ++ more
  match readElement? r with
  | some (p, r) => if r.head?.any continuesCompound then none else some (⟨simples, some p⟩, r)
  | none => if simples.isEmpty then none else some (⟨simples, none⟩, r)

theorem readType_length (ts : List Token) :
    (readType ts).1.length + (readType ts).2.length = ts.length := by
  unfold readType; split <;> simp <;> omega

theorem readElement?_length_lt {ts : List Token} {p : PseudoElement × List Token}
    (h : readElement? ts = some p) : p.2.length < ts.length := by
  unfold readElement? at h
  split at h
  · obtain ⟨q, hq, rfl⟩ := Option.map_eq_some_iff.1 h
    simp only [List.length_cons]
    omega
  · obtain ⟨q, hq, rfl⟩ := Option.map_eq_some_iff.1 h
    simp only [List.length_cons]
    omega
  · simp at h

theorem readSimples?_length {ts : List Token} {p : List SimpleSelector × List Token}
    (h : readSimples? ts = some p) : p.1.length + p.2.length ≤ ts.length := by
  fun_induction readSimples? ts generalizing p with
  | case1 ts _ => simp_all; grind
  | case2 => simp at h
  | case3 ts _ s r hs hlt ih =>
    obtain ⟨q, hq, rfl⟩ := Option.map_eq_some_iff.1 h
    have := ih hq
    simp only [List.length_cons]; omega

theorem readCompound?_length_lt {ts : List Token} {p : CompoundSelector × List Token}
    (h : readCompound? ts = some p) : p.2.length < ts.length := by
  have h1 := readType_length ts
  unfold readCompound? at h
  simp only [Option.bind_eq_bind] at h
  split at h
  · simp at h
  simp only [Option.bind_eq_some_iff] at h
  obtain ⟨⟨more, r⟩, hs, h⟩ := h
  have h2 := readSimples?_length hs
  simp only at h2
  split at h
  · rename_i q r' he
    have h3 := readElement?_length_lt he
    split at h
    · simp at h
    · simp only [Option.some.injEq] at h
      subst h
      simp only at h3 ⊢
      omega
  · split at h
    · simp at h
    · rename_i hne
      simp only [Option.some.injEq] at h
      subst h
      simp only [List.isEmpty_iff, List.append_eq_nil_iff, List.map_eq_nil_iff, not_and] at hne ⊢
      rcases hm : more with _ | ⟨m, ms⟩
      · have hl : 0 < (readType ts).1.length := by
          rw [List.length_pos_iff]
          intro hn
          exact hne hn hm
        omega
      · simp [hm] at h2
        omega

/-- The combinator before the next compound selector, which stands right after it. Blanks alone are
the descendant combinator. -/
def readCombinator? (ts : List Token) : Option (Combinator × List Token) :=
  match skipBlanks ts with
  | .delim '>' :: r => some (.child, skipBlanks r)
  | .delim '+' :: r => some (.nextSibling, skipBlanks r)
  | .delim '~' :: r => some (.laterSibling, skipBlanks r)
  | r => if ts.head?.any Token.isBlank then some (.descendant, r) else none

theorem readCombinator?_length_le {ts : List Token} {p : Combinator × List Token}
    (h : readCombinator? ts = some p) : p.2.length ≤ ts.length := by
  have h1 := skipBlanks_length_le ts
  unfold readCombinator? at h
  split at h
  case h_4 =>
    split at h
    · obtain rfl := Option.some.inj h
      exact h1
    · simp at h
  all_goals
    rename_i r heq
    have h2 := skipBlanks_length_le r
    simp_all
    grind

/-- Continues a selector to the end. Only the last compound selector may have a pseudo-element. -/
def readLinks? (s : ComplexSelector) (ts : List Token) : Option ComplexSelector :=
  if (skipBlanks ts).isEmpty then some s
  else if s.subject.pseudoElement.isSome then none
  else
    match hk : readCombinator? ts with
    | none => none
    | some (k, r) =>
      match hc : readCompound? r with
      | none => none
      | some (c, rest) =>
        have : rest.length < ts.length :=
          Nat.lt_of_lt_of_le (readCompound?_length_lt hc) (readCombinator?_length_le hk)
        readLinks? (s.extend k c) rest
  termination_by ts.length

end SelectorReader

/-- The selector that a whole run of tokens makes. -/
def ComplexSelector.ofTokens? (ts : List Token) : Option ComplexSelector := do
  let (c, r) ← SelectorReader.readCompound? ts
  SelectorReader.readLinks? ⟨c, []⟩ r

/-- The selectors between the commas outside parentheses and brackets. -/
def SelectorList.ofTokens? (ts : List Token) : Option SelectorList :=
  (splitOutside Token.opensGroup Token.closesGroup (· == .comma) 0 ts).mapM fun piece =>
    ComplexSelector.ofTokens? (trimBlanks piece)

/-- The selector list that a text holds. -/
def SelectorList.ofString? (text : String) : Option SelectorList := ofTokens? (tokenize text)

end WebStyle
