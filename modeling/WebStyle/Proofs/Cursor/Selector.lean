import WebStyle.Proofs.Cursor.Part
/-!
Selectors by positions. A negation reads a compound selector of its own from its argument, which is
shorter than the tokens it stands in, so the depth of the nesting is bounded by their number. The
compound selectors of a complex selector and the combinators between them are collected in two
lists, and each compound selector but the leftmost finds its combinator at the index before its own.
-/
set_option autoImplicit false

namespace WebStyle.Cursor

open WebStyle.SelectorReader

/-- A type or a star, where there is one. -/
def typeAt (tokens : List Token) (pos : Nat) : List Condition × Nat :=
  match tokens[pos]? with
  | some (.ident name) => ([.type (Text.lower name)], pos + 1)
  | some (.delim '*') => ([.universal], pos + 1)
  | _ => ([], pos)

/-- Adds a part to a compound selector. -/
def addPart (c : CompoundSelector) : Part → CompoundSelector
  | .simple s => { c with simples := c.simples ++ [s] }
  | .element p => { c with pseudoElement := some p }

/-- Adds the next part, if there is one. No part may follow a pseudo-element. -/
def compoundStep (negated : List Token → Checked (List Condition)) (tokens : List Token) :
    CompoundSelector × Nat → Checked ((CompoundSelector × Nat) ⊕ (CompoundSelector × Nat))
  | (c, pos) => do
    if pos < tokens.length then
      if continuesCompound (← index tokens pos) then
        let (part, next) ← partAt negated tokens pos
        if c.pseudoElement.isSome then .error .refused else .ok (.inl (addPart c part, next))
      else .ok (.inr (c, pos))
    else .ok (.inr (c, pos))

def compoundWith (negated : List Token → Checked (List Condition)) (tokens : List Token)
    (pos : Nat) : Checked (CompoundSelector × Nat) := do
  let (type, pos) := typeAt tokens pos
  if tokens[pos]? == some (.delim '|') then .error .refused
  else
    let (c, pos) ←
      loop (compoundStep negated tokens) (tokens.length + 1) (⟨type.map .plain, none⟩, pos)
    if c.simples.isEmpty && c.pseudoElement.isNone then .error .refused else .ok (c, pos)

def condition? : SimpleSelector → Option Condition
  | .plain c => some c
  | .negation _ => none

/-- What a negation negates: a compound selector that takes up all of its argument and holds no
negation of its own. -/
def negationWith (compound : List Token → Nat → Checked (CompoundSelector × Nat))
    (args : List Token) : Checked (List Condition) := do
  let (c, next) ← compound args 0
  if next != args.length || c.pseudoElement.isSome then .error .refused
  else ofOption (c.simples.mapM condition?)

/-- A compound selector in which negations stand as deep in one another as given at most. -/
def compoundAt : Nat → List Token → Nat → Checked (CompoundSelector × Nat)
  | 0, _, _ => .error (.fault .endless)
  | nesting + 1, tokens, pos => compoundWith (negationWith (compoundAt nesting)) tokens pos

/-- The parts that follow others, up to a token that continues no compound selector. -/
def readParts? (simples : List SimpleSelector) (ts : List Token) :
    Option (CompoundSelector × List Token) := do
  let (more, r) ← readSimples? ts
  match readElement? r with
  | some (p, r) =>
    if r.head?.any continuesCompound then none else some (⟨simples ++ more, some p⟩, r)
  | none => some (⟨simples ++ more, none⟩, r)

section Compound
variable {tokens r : List Token} {pos rounds : Nat}
  {negated : List Token → Checked (List Condition)}

theorem typeAt_at (h : At tokens pos r) :
    ∃ next, typeAt tokens pos = ((readType r).1, next) ∧ At tokens next (readType r).2 := by
  unfold typeAt
  rw [h.getElem?]
  rcases r with _ | ⟨t, r⟩
  · exact ⟨pos, rfl, h⟩
  · cases t with
    | ident name => exact ⟨pos + 1, rfl, h.next⟩
    | delim c =>
      by_cases hc : c = '*'
      · subst hc
        exact ⟨pos + 1, rfl, h.next⟩
      · exact ⟨pos, by simp [hc, readType], by simpa [hc, readType] using h⟩
    | _ => exact ⟨pos, rfl, h⟩

theorem compoundStep_end (h : At tokens pos r) (hr : r.head?.any continuesCompound = false)
    (c : CompoundSelector) : compoundStep negated tokens (c, pos) = .ok (.inr (c, pos)) := by
  cases r with
  | nil => simp [compoundStep, h.eq_length]
  | cons t r =>
    have ht : continuesCompound t = false := by simpa using hr
    simp [compoundStep, h.lt, h.index, ht]

theorem compoundStep_refused {t : Token} (h : At tokens pos (t :: r))
    (ht : continuesCompound t)
    (hnegated : ReadsNegations tokens negated)
    {c : CompoundSelector} (hc : c.pseudoElement.isSome ∨ readPart? (t :: r) = none) :
    compoundStep negated tokens (c, pos) = .error .refused := by
  have hpart := partAt_follows h hnegated
  simp only [compoundStep, h.lt, h.index, ht, if_true, ok_bind]
  cases hread : readPart? (t :: r) with
  | none =>
    rw [hread] at hpart
    rw [hpart.refused]
    rfl
  | some q =>
    rw [hread] at hpart hc
    obtain ⟨next, hpart, -⟩ := hpart
    rw [hpart]
    simp_all

theorem compoundStep_part {t : Token} {q : Part × List Token} (h : At tokens pos (t :: r))
    (ht : continuesCompound t)
    (hnegated : ReadsNegations tokens negated)
    (hread : readPart? (t :: r) = some q) (simples : List SimpleSelector) :
    ∃ next, At tokens next q.2 ∧ compoundStep negated tokens (⟨simples, none⟩, pos) =
      .ok (.inl (addPart ⟨simples, none⟩ q.1, next)) := by
  have hpart := partAt_follows h hnegated
  rw [hread] at hpart
  obtain ⟨next, hpart, hnext⟩ := hpart
  refine ⟨next, hnext, ?_⟩
  simp only [compoundStep, h.lt, h.index, ht, if_true, ok_bind, hpart]
  rfl

theorem loop_element (h : At tokens pos r) (hrounds : r.length < rounds)
    (hnegated : ReadsNegations tokens negated)
    (simples : List SimpleSelector) (p : PseudoElement) :
    Follows tokens (loop (compoundStep negated tokens) rounds (⟨simples, some p⟩, pos))
      (if r.head?.any continuesCompound then none else some (⟨simples, some p⟩, r)) := by
  split
  · rename_i hr
    cases r with
    | nil => cases hr
    | cons t r => exact loop_error (by omega) (compoundStep_refused h hr hnegated (.inl rfl))
  · rename_i hr
    rw [loop_inr (by omega) (compoundStep_end h (Bool.eq_false_iff.2 hr) _)]
    exact .of_at h _

theorem head_of_readElement? {q : PseudoElement × List Token} (h : readElement? r = some q) :
    ∃ t r', r = t :: r' ∧ continuesCompound t := by
  unfold readElement? at h
  split at h
  · exact ⟨_, _, rfl, rfl⟩
  · exact ⟨_, _, rfl, rfl⟩
  · cases h

theorem readParts?_stop {ts : List Token}
    (hts : !ts.head?.any continuesCompound || (readElement? ts).isSome)
    (simples : List SimpleSelector) : readParts? simples ts =
      match readElement? ts with
      | some (p, r) =>
        if r.head?.any continuesCompound then none else some (⟨simples, some p⟩, r)
      | none => some (⟨simples, none⟩, ts) := by
  have hsimples : readSimples? ts = some ([], ts) := by rw [readSimples?, if_pos hts]
  simp only [readParts?, hsimples, Option.bind_eq_bind, Option.bind_some, List.append_nil]

theorem readParts?_refused {ts : List Token}
    (hts : ¬ (!ts.head?.any continuesCompound || (readElement? ts).isSome))
    (hs : readSimple? ts = none) (simples : List SimpleSelector) : readParts? simples ts = none := by
  have hsimples : readSimples? ts = none := by
    rw [readSimples?, if_neg hts]
    split
    · rfl
    · simp_all
  simp [readParts?, hsimples]

theorem readParts?_simple {ts r : List Token} {s : SimpleSelector}
    (hts : ¬ (!ts.head?.any continuesCompound || (readElement? ts).isSome))
    (hs : readSimple? ts = some (s, r)) (simples : List SimpleSelector) :
    readParts? simples ts = readParts? (simples ++ [s]) r := by
  have hsimples : readSimples? ts =
      (readSimples? r).map fun (more, rest) => (s :: more, rest) := by
    rw [readSimples?, if_neg hts]
    split
    · simp_all
    · simp_all
  simp only [readParts?, hsimples]
  cases readSimples? r <;> simp

theorem loop_parts (h : At tokens pos r) (hrounds : r.length < rounds)
    (hnegated : ReadsNegations tokens negated)
    (simples : List SimpleSelector) :
    Follows tokens (loop (compoundStep negated tokens) rounds (⟨simples, none⟩, pos))
      (readParts? simples r) := by
  fun_induction readSimples? r generalizing pos rounds simples with
  | case1 ts hts =>
    rw [readParts?_stop hts]
    cases helement : readElement? ts with
    | none =>
      have hhead : ts.head?.any continuesCompound = false := by simpa [helement] using hts
      rw [loop_inr (by omega) (compoundStep_end h hhead _)]
      exact .of_at h _
    | some q =>
      obtain ⟨t, r, rfl, ht⟩ := head_of_readElement? helement
      have hlength := readElement?_length_lt helement
      obtain ⟨next, hnext, hstep⟩ := compoundStep_part h ht hnegated
        (show readPart? (t :: r) = some (.element q.1, q.2) by simp [readPart?, helement]) simples
      rw [loop_inl _ (by omega) hstep]
      exact loop_element hnext (by dsimp only; omega) hnegated simples q.1
  | case2 ts hts hs =>
    obtain ⟨hhead, helement⟩ : ts.head?.any continuesCompound ∧ readElement? ts = none := by
      simpa using hts
    rw [readParts?_refused hts hs]
    cases ts with
    | nil => cases hhead
    | cons t r => exact loop_error (by omega) (compoundStep_refused h hhead hnegated
        (.inr (by simp [readPart?, helement, hs])))
  | case3 ts hts s r hs hlt ih =>
    obtain ⟨hhead, helement⟩ : ts.head?.any continuesCompound ∧ readElement? ts = none := by
      simpa using hts
    cases ts with
    | nil => cases hhead
    | cons t u =>
      obtain ⟨next, hnext, hstep⟩ := compoundStep_part h hhead hnegated
        (show readPart? (t :: u) = some (.simple s, r) by simp [readPart?, helement, hs]) simples
      rw [loop_inl _ (by omega) hstep, readParts?_simple hts hs]
      exact ih hnext (by omega) _

theorem readCompound?_eq (ts : List Token) : readCompound? ts =
    if (readType ts).2.head? == some (.delim '|') then none
    else (readParts? ((readType ts).1.map .plain) (readType ts).2).filter fun p =>
      !(p.1.simples.isEmpty && p.1.pseudoElement.isNone) := by
  simp only [readCompound?, readParts?]
  split
  · rfl
  · cases readSimples? (readType ts).2 with
    | none => rfl
    | some q =>
      simp only [Option.bind_eq_bind, Option.bind_some]
      cases readElement? q.2 with
      | none =>
        simp only [Option.filter_some]
        cases ((readType ts).1.map SimpleSelector.plain ++ q.1).isEmpty <;> simp
      | some e =>
        simp only
        split <;> simp [Option.filter_some]

theorem compoundWith_follows (h : At tokens pos r)
    (hnegated : ReadsNegations tokens negated) :
    Follows tokens (compoundWith negated tokens pos) (readCompound? r) := by
  obtain ⟨next, htype, hnext⟩ := typeAt_at h
  rw [readCompound?_eq, compoundWith, htype]
  simp only [hnext.getElem?, List.head?_eq_getElem?]
  split
  · rfl
  · have hparts := loop_parts hnext hnext.lt_rounds hnegated ((readType r).1.map .plain)
    cases hread : readParts? ((readType r).1.map .plain) (readType r).2 with
    | none =>
      rw [hread] at hparts
      rw [hparts.refused]
      rfl
    | some p =>
      rw [hread] at hparts
      obtain ⟨next, hparts, hp⟩ := hparts
      rw [hparts]
      simp only [ok_bind, Option.filter_some]
      cases p.1.simples.isEmpty && p.1.pseudoElement.isNone with
      | true => rfl
      | false => exact .of_at hp _

/-- Conditions are the simple selectors that are no negations. -/
theorem readCondition?_eq (ts : List Token) : readCondition? ts =
    (readSimple? ts).bind fun p => (condition? p.1).map (·, p.2) := by
  have hplain : ((readCondition? ts).map fun p => (SimpleSelector.plain p.1, p.2)).bind
      (fun p => (condition? p.1).map (·, p.2)) = readCondition? ts := by
    cases readCondition? ts <;> rfl
  unfold readSimple?
  split
  · rename_i name r
    split
    · rename_i hnot
      have hname : Text.lower name = "not" := by
        simpa [Text.sameIgnoringCase, show Text.lower "not" = "not" from rfl] using hnot
      have hformula : ∀ f, PseudoClass.ofFormula? name f = none := fun f => by
        simp [PseudoClass.ofFormula?, hname]
      simp only [readCondition?, hformula]
      cases splitArguments? r with
      | none => rfl
      | some q =>
        cases hcs : readNegated? (trimBlanks q.1) <;> simp [hcs, condition?]
    · exact hplain.symm
  · exact hplain.symm

theorem readCondition?_stop {ts : List Token}
    (h : (!ts.head?.any continuesCompound || (readElement? ts).isSome) = true) :
    readCondition? ts = none := by
  unfold readCondition?
  split
  · cases h
  · cases h
  · cases h
  · rename_i name r
    split
    · rfl
    · rename_i hname
      simp [continuesCompound, readElement?] at h
      simp [h] at hname
  · cases h
  · rfl

theorem readConditions?_cons (t : Token) (r : List Token) : readConditions? (t :: r) =
    (readCondition? (t :: r)).bind fun p => (readConditions? p.2).map (p.1 :: ·) := by
  rw [readConditions?]
  simp only [List.isEmpty_cons, Bool.false_eq_true, if_false]
  split <;> simp [*]

theorem readConditions?_eq (ts : List Token) : readConditions? ts =
    (readSimples? ts).bind fun p => if p.2.isEmpty then p.1.mapM condition? else none := by
  fun_induction readSimples? ts with
  | case1 ts hts =>
    cases ts with
    | nil => simp [readConditions?]
    | cons t r => rw [readConditions?_cons, readCondition?_stop hts]; rfl
  | case2 ts hts hs =>
    cases ts with
    | nil => exact absurd rfl hts
    | cons t r => rw [readConditions?_cons, readCondition?_eq, hs]; rfl
  | case3 ts hts s r hs hlt ih =>
    cases ts with
    | nil => exact absurd rfl hts
    | cons t u =>
      rw [readConditions?_cons, readCondition?_eq, hs]
      cases s with
      | plain c =>
        simp only [condition?, Option.bind_some, Option.map_some, ih]
        cases readSimples? r with
        | none => rfl
        | some q =>
          simp only [Option.bind_some, Option.map_some, List.mapM_cons, condition?]
          cases q.2.isEmpty with
          | false => rfl
          | true => cases q.1.mapM condition? <;> rfl
      | negation cs =>
        cases readSimples? r with
        | none => rfl
        | some q => simp [condition?]

theorem mapM_condition?_append (type : List Condition) (more : List SimpleSelector) :
    (type.map SimpleSelector.plain ++ more).mapM condition? =
      (more.mapM condition?).map (type ++ ·) := by
  induction type with
  | nil => simp
  | cons c type ih =>
    simp only [List.map_cons, List.cons_append, List.mapM_cons, ih, condition?]
    cases more.mapM condition? <;> rfl

/-- A negation negates the compound selector that takes up its argument, unless that names a
pseudo-element or holds a negation. -/
theorem readNegated?_eq (args : List Token) : readNegated? args =
    (readCompound? args).bind fun p =>
      if p.2.isEmpty && p.1.pseudoElement.isNone then p.1.simples.mapM condition? else none := by
  simp only [readNegated?, readCompound?, readConditions?_eq]
  generalize (readType args).1 = type
  generalize (readType args).2 = r
  by_cases hbar : r.head? == some (.delim '|')
  · obtain ⟨u, rfl⟩ : ∃ u, r = .delim '|' :: u := by
      cases r with
      | nil => cases hbar
      | cons t u => exact ⟨u, congrArg (· :: u) (by simpa using hbar)⟩
    have hsimples : readSimples? (.delim '|' :: u) = some ([], .delim '|' :: u) := by
      rw [readSimples?]
      rfl
    simp [hsimples]
  · simp only [hbar, Bool.false_eq_true, if_false]
    cases readSimples? r with
    | none => rfl
    | some q =>
      obtain ⟨more, r⟩ := q
      simp only [Option.bind_eq_bind, Option.bind_some]
      cases r with
      | cons t u =>
        -- Something is left over, be it a pseudo-element or not.
        simp only [List.isEmpty_cons, Bool.false_eq_true, if_false, Option.bind_none]
        cases readElement? (t :: u) with
        | some e =>
          simp only
          split <;> simp
        | none =>
          simp only
          split <;> simp
      | nil =>
        simp only [List.isEmpty_nil, if_true, readElement?]
        cases type with
        | nil =>
          cases more with
          | nil => rfl
          | cons s more =>
            simp only [List.mapM_cons, List.map_nil, List.nil_append, List.isEmpty_cons,
              Bool.false_eq_true, if_false, Option.bind_some]
            cases condition? s with
            | none => rfl
            | some c => cases more.mapM condition? <;> rfl
        | cons c type =>
          have happend := mapM_condition?_append (c :: type) more
          simp only [List.map_cons, List.cons_append] at happend ⊢
          simp only [List.isEmpty_cons, Bool.false_eq_true, if_false, Option.bind_some, happend]
          cases more.mapM condition? <;> rfl

theorem negationWith_eq {compound : List Token → Nat → Checked (CompoundSelector × Nat)}
    {args : List Token} (h : Follows args (compound args 0) (readCompound? args)) :
    negationWith compound args = ofOption (readNegated? args) := by
  rw [readNegated?_eq, negationWith]
  cases hread : readCompound? args with
  | none =>
    rw [hread] at h
    rw [h.refused]
    rfl
  | some p =>
    rw [hread] at h
    obtain ⟨next, h, hnext⟩ := h
    rw [h, ok_bind, Option.bind_some]
    have hend : (next != args.length) = !p.2.isEmpty := by
      have := hnext.length
      cases hp : p.2 with
      | nil => simp_all
      | cons t r => simp_all; omega
    simp only [hend]
    cases p.2.isEmpty <;> cases p.1.pseudoElement <;> rfl

/-- An argument is shorter than the tokens it stands in, so negations stand in one another less deep
than there are tokens. -/
theorem compoundAt_follows {nesting : Nat} (h : At tokens pos r)
    (hnesting : tokens.length < nesting) :
    Follows tokens (compoundAt nesting tokens pos) (readCompound? r) := by
  induction nesting generalizing tokens pos r with
  | zero => omega
  | succ nesting ih =>
    refine compoundWith_follows h fun args hargs => negationWith_eq ?_
    exact ih (.start args) (by omega)

end Compound

/-! ### Complex selectors -/

/-- A compound selector with the combinator that links it to the one on its left. -/
abbrev Link := CompoundSelector × Option Combinator

def combinatorOf : Token → Option Combinator
  | .delim '>' => some .child
  | .delim '+' => some .nextSibling
  | .delim '~' => some .laterSibling
  | _ => none

/-- The combinator at the first token that is not blank, if there is one. Blanks before it may stand
for a combinator of their own. -/
def combinatorFrom (tokens : List Token) (blank : Bool) (pos : Nat) :
    Checked (Option (Combinator × Nat)) := do
  if tokens.length ≤ pos then .ok none
  else
    match combinatorOf (← index tokens pos) with
    | some k =>
      let next ← skipBlanksAt tokens (pos + 1)
      if tokens.length ≤ next then .error .refused else .ok (some (k, next))
    | none => if blank then .ok (some (.descendant, pos)) else .error .refused

/-- The combinator after a compound selector; none at the end. -/
def combinatorAt (tokens : List Token) (pos : Nat) : Checked (Option (Combinator × Nat)) := do
  let blank ← if pos < tokens.length then (do .ok (← index tokens pos).isBlank) else .ok false
  combinatorFrom tokens blank (← skipBlanksAt tokens pos)

def linkStep (tokens : List Token) : (List CompoundSelector × List Combinator) × Nat →
    Checked (((List CompoundSelector × List Combinator) × Nat) ⊕
      (List CompoundSelector × List Combinator))
  | ((compounds, combinators), pos) => do
    let (c, pos) ← compoundAt (tokens.length + 1) tokens pos
    match ← combinatorAt tokens pos with
    | some (k, next) => .ok (.inl ((compounds ++ [c], combinators ++ [k]), next))
    | none => .ok (.inr (compounds ++ [c], combinators))

/-- The link of a compound selector of an index. -/
def linkOf (combinators : List Combinator) : CompoundSelector × Nat → Checked Link
  | (c, i) =>
    if i == 0 then .ok (c, none) else do .ok (c, some (← index combinators (← decrease i 1)))

/-- The links of a selector from right to left. Only the rightmost may have a pseudo-element. -/
def complexSelector (tokens : List Token) : Checked (List Link) := do
  let (compounds, combinators) ← loop (linkStep tokens) (tokens.length + 1) (([], []), 0)
  let before ← slice compounds 0 (← decrease compounds.length 1)
  if before.any (·.pseudoElement.isSome) then .error .refused
  else compounds.zipIdx.reverse.mapM (linkOf combinators)

def selectorList (tokens : List Token) : Checked (List (List Link)) := do
  let groups ← piecesAt Token.opensGroup Token.closesGroup (· == .comma) tokens 0 0 0 tokens
  let selectors ← groups.mapM fun group => do complexSelector (← trim group)
  if selectors.isEmpty then .error .refused else .ok selectors

/-- The selector of a list of links, each of which has a combinator but the last. -/
def chain : List Link → Checked ComplexSelector
  | [(c, none)] => .ok ⟨c, []⟩
  | (c, some k) :: links => do .ok ((← chain links).extend k c)
  | _ => .error (.fault .chain)

end WebStyle.Cursor

namespace WebStyle.ComplexSelector

/-- The compound selectors from right to left, each with the combinator on its left if there is
one. -/
def parts (s : ComplexSelector) : List Cursor.Link :=
  s.compounds.zip (s.links.map (some ·.1) ++ [none])

theorem parts_extend (s : ComplexSelector) (k : Combinator) (c : CompoundSelector) :
    (s.extend k c).parts = (c, some k) :: s.parts := rfl

/-- Every part but the last has a combinator, and the last has none. -/
theorem parts_combinators (s : ComplexSelector) :
    s.parts.map (·.2) = s.links.map (some ·.1) ++ [none] := by
  rw [parts, List.map_snd_zip]
  simp [compounds]

end WebStyle.ComplexSelector

namespace WebStyle.Cursor

open WebStyle.SelectorReader

theorem chain_parts (s : ComplexSelector) : chain s.parts = .ok s := by
  obtain ⟨c, links⟩ := s
  induction links generalizing c with
  | nil => rfl
  | cons link links ih =>
    change chain ((c, some link.1) :: (⟨link.2, links⟩ : ComplexSelector).parts) = _
    rw [chain, ih]
    rfl

/-! ### Links -/

/-- The compound selectors and the combinators of a selector, wherever its pseudo-elements stand. -/
def readAll? (ts : List Token) : Option (List CompoundSelector × List Combinator) :=
  match hc : readCompound? ts with
  | none => none
  | some (c, r) =>
    if (skipBlanks r).isEmpty then some ([c], [])
    else
      match hk : readCombinator? r with
      | none => none
      | some (k, rest) =>
        have : rest.length < ts.length :=
          (readCombinator?_length_le hk).trans_lt (readCompound?_length_lt hc)
        (readAll? rest).map fun p => (c :: p.1, k :: p.2)
  termination_by ts.length

section Link
variable {tokens r : List Token} {pos rounds : Nat}

theorem readCombinator?_eq {t : Token} {u : List Token} (h : skipBlanks r = t :: u) :
    readCombinator? r =
      match combinatorOf t with
      | some k => some (k, skipBlanks u)
      | none => if r.head?.any Token.isBlank then some (.descendant, t :: u) else none := by
  unfold readCombinator?
  rw [h]
  split
  · rename_i ht
    cases ht
    rfl
  · rename_i ht
    cases ht
    rfl
  · rename_i ht
    cases ht
    rfl
  · rename_i hchild hnext hlater
    have hnone : combinatorOf t = none := by
      unfold combinatorOf
      split
      · exact (hchild _ rfl).elim
      · exact (hnext _ rfl).elim
      · exact (hlater _ rfl).elim
      · rfl
    rw [hnone]

theorem combinatorAt_of_skip {next : Nat} (h : At tokens pos r)
    (hskip : skipBlanksAt tokens pos = .ok next) :
    combinatorAt tokens pos = combinatorFrom tokens (r.head?.any Token.isBlank) next := by
  unfold combinatorAt
  rw [hskip]
  cases r with
  | nil => simp [h.eq_length]
  | cons t r => simp [h.lt, h.index]

theorem combinatorAt_end (h : At tokens pos r) (hr : (skipBlanks r).isEmpty) :
    combinatorAt tokens pos = .ok none := by
  obtain ⟨next, hskip, hnext⟩ := skipBlanksAt_at h
  rw [List.isEmpty_iff.1 hr] at hnext
  rw [combinatorAt_of_skip h hskip, combinatorFrom, if_pos hnext.eq_length.ge]

/-- A combinator at the end is refused at once, and not when a compound selector is missed. -/
theorem combinatorAt_eq (h : At tokens pos r) (hr : (skipBlanks r).isEmpty = false) :
    (combinatorAt tokens pos = .error .refused ∧ ∀ k t u, readCombinator? r ≠ some (k, t :: u)) ∨
      ∃ k next rest, combinatorAt tokens pos = .ok (some (k, next)) ∧
        readCombinator? r = some (k, rest) ∧ At tokens next rest := by
  obtain ⟨next, hskip, hnext⟩ := skipBlanksAt_at h
  cases hblank : skipBlanks r with
  | nil => simp [hblank] at hr
  | cons t u =>
    rw [hblank] at hnext
    rw [combinatorAt_of_skip h hskip, combinatorFrom, if_neg (Nat.not_le.2 hnext.lt), hnext.index,
      ok_bind, readCombinator?_eq hblank]
    cases combinatorOf t with
    | some k =>
      obtain ⟨next, hskip, hnext⟩ := skipBlanksAt_at hnext.next
      simp only [hskip, ok_bind]
      cases hu : skipBlanks u with
      | nil =>
        rw [hu] at hnext
        exact .inl ⟨if_pos hnext.eq_length.ge, fun k t u h => by cases h⟩
      | cons v w =>
        rw [hu] at hnext
        exact .inr ⟨k, next, _, if_neg (Nat.not_le.2 hnext.lt), rfl, hnext⟩
    | none =>
      cases r.head?.any Token.isBlank with
      | true => exact .inr ⟨.descendant, next, _, rfl, rfl, hnext⟩
      | false => exact .inl ⟨rfl, fun k t u h => by cases h⟩

/-- A step after the compound selector is read. -/
theorem linkStep_of_readCompound? (h : At tokens pos r) {c : CompoundSelector} {u : List Token}
    (hc : readCompound? r = some (c, u)) (compounds : List CompoundSelector)
    (combinators : List Combinator) :
    ∃ next, At tokens next u ∧ linkStep tokens ((compounds, combinators), pos) =
      (combinatorAt tokens next).map fun
        | some (k, next) => .inl ((compounds ++ [c], combinators ++ [k]), next)
        | none => .inr (compounds ++ [c], combinators) := by
  have hread := compoundAt_follows h (Nat.lt_succ_self _)
  rw [hc] at hread
  obtain ⟨next, hread, hnext⟩ := hread
  refine ⟨next, hnext, ?_⟩
  simp only [linkStep, hread, ok_bind]
  cases combinatorAt tokens next with
  | error stop => rfl
  | ok o => cases o <;> rfl

theorem readAll?_nil : readAll? [] = none := by
  rw [readAll?]
  split
  · rfl
  · rename_i hc
    exact absurd (readCompound?_length_lt hc) (Nat.not_lt_zero _)

theorem readAll?_eq (ts : List Token) : readAll? ts =
    (readCompound? ts).bind fun (c, r) =>
      if (skipBlanks r).isEmpty then some ([c], [])
      else (readCombinator? r).bind fun (k, rest) =>
        (readAll? rest).map fun p => (c :: p.1, k :: p.2) := by
  rw [readAll?]
  split
  · rename_i hc
    rw [hc]
    rfl
  · rename_i c r hc
    simp only [hc, Option.bind_some]
    split
    · rfl
    · split <;> simp [*]

theorem loop_links (h : At tokens pos r) (hrounds : r.length < rounds)
    (compounds : List CompoundSelector) (combinators : List Combinator) :
    loop (linkStep tokens) rounds ((compounds, combinators), pos) =
      ofOption ((readAll? r).map fun p => (compounds ++ p.1, combinators ++ p.2)) := by
  fun_induction readAll? r generalizing pos rounds compounds combinators with
  | case1 ts hc =>
    have hread := compoundAt_follows h (Nat.lt_succ_self _)
    rw [hc] at hread
    exact loop_error (by omega) (by rw [linkStep, hread.refused]; rfl)
  | case2 ts c r hc hr =>
    obtain ⟨next, hnext, hstep⟩ := linkStep_of_readCompound? h hc compounds combinators
    rw [combinatorAt_end hnext hr] at hstep
    rw [loop_inr (by omega) hstep]
    simp [ofOption]
  | case3 ts c r hc hr hk =>
    obtain ⟨next, hnext, hstep⟩ := linkStep_of_readCompound? h hc compounds combinators
    rcases combinatorAt_eq hnext (Bool.eq_false_iff.2 hr) with
      ⟨hcomb, -⟩ | ⟨k, next, rest, -, hread, -⟩
    · rw [hcomb] at hstep
      exact loop_error (by omega) hstep
    · rw [hk] at hread
      cases hread
  | case4 ts c r hc hr k rest hk hlt ih =>
    obtain ⟨next, hnext, hstep⟩ := linkStep_of_readCompound? h hc compounds combinators
    rcases combinatorAt_eq hnext (Bool.eq_false_iff.2 hr) with
      ⟨hcomb, hnil⟩ | ⟨k', next, rest', hcomb, hread, hrest⟩
    · rw [hcomb] at hstep
      have : rest = [] := by
        cases rest with
        | nil => rfl
        | cons t u => exact absurd hk (hnil _ _ _)
      subst this
      rw [readAll?_nil]
      exact loop_error (by omega) hstep
    · obtain ⟨rfl, rfl⟩ : k = k' ∧ rest = rest' := by simpa [hk] using hread
      rw [hcomb] at hstep
      rw [loop_inl _ (by omega) hstep, ih hrest (by omega)]
      simp [Function.comp_def]

theorem readAll?_length {p : List CompoundSelector × List Combinator} (h : readAll? r = some p) :
    p.1.length = p.2.length + 1 := by
  fun_induction readAll? r generalizing p with
  | case1 ts hc => cases h
  | case2 ts c r hc hr => cases h; rfl
  | case3 ts c r hc hr hk => cases h
  | case4 ts c r hc hr k rest hk hlt ih =>
    obtain ⟨q, hq, rfl⟩ := Option.map_eq_some_iff.1 h
    simp [ih hq]

/-- The pseudo-elements of all but the last compound selector are looked at only once all of them
are read. -/
theorem readLinks?_eq (s : ComplexSelector) (ts : List Token) : readLinks? s ts =
    if (skipBlanks ts).isEmpty then some s
    else if s.subject.pseudoElement.isSome then none
    else (readCombinator? ts).bind fun (k, r) => (readAll? r).bind fun (cs, ks) =>
      if cs.dropLast.any (·.pseudoElement.isSome) then none
      else some (((k :: ks).zip cs).foldl (fun s (k, c) => s.extend k c) s) := by
  fun_induction readLinks? s ts with
  | case1 s ts hr => simp [hr]
  | case2 s ts hr hs => simp [hr, hs]
  | case3 s ts hr hs hk => simp [hr, hs, hk]
  | case4 s ts hr hs k r hk hc => simp [hr, hs, hk, readAll?_eq r, hc]
  | case5 s ts hr hs k r hk c rest hc hlt ih =>
    rw [if_neg hr, if_neg hs, hk, Option.bind_some, ih]
    simp only [readAll?_eq r, hc, Option.bind_some]
    split
    · rfl
    · cases readCombinator? rest with
      | none => simp
      | some p =>
        cases hall : readAll? p.2 with
        | none => simp [hall]
        | some q =>
          obtain ⟨cs, ks⟩ := q
          have hlength := readAll?_length hall
          cases cs with
          | nil => cases hlength
          | cons c' cs =>
            simp only [hall, Option.bind_some, Option.map_some, List.dropLast_cons_cons,
              List.any_cons]
            cases hc : c.pseudoElement.isSome with
            | true => simp [ComplexSelector.extend, hc]
            | false => simp [ComplexSelector.extend, hc]

end Link

/-! ### Whole selectors -/

theorem parts_foldl_extend (links : List (Combinator × CompoundSelector)) (s : ComplexSelector) :
    (links.foldl (fun s (k, c) => s.extend k c) s).parts =
      (links.map fun (k, c) => (c, some k)).reverse ++ s.parts := by
  induction links generalizing s with
  | nil => rfl
  | cons link links ih =>
    rw [List.foldl_cons, ih, ComplexSelector.parts_extend]
    simp

theorem mapM_eq_ok {α β : Type} {f : α → Checked β} {g : α → β} {l : List α}
    (h : ∀ a ∈ l, f a = .ok (g a)) : l.mapM f = .ok (l.map g) := by
  induction l with
  | nil => rfl
  | cons a l ih =>
    rw [List.mapM_cons, h a List.mem_cons_self, ih fun a ha => h a (List.mem_cons_of_mem _ ha)]
    rfl

/-- Each compound selector but the first finds the combinator before it. -/
theorem mapM_linkOf (c : CompoundSelector) {cs : List CompoundSelector} {ks : List Combinator}
    (h : cs.length = ks.length) :
    (c :: cs).zipIdx.reverse.mapM (linkOf ks) =
      .ok (((ks.zip cs).map fun (k, c) => (c, some k)).reverse ++ [(c, none)]) := by
  have hlinks : ∀ p ∈ (c :: cs).zipIdx.reverse, linkOf ks p =
      .ok (p.1, if p.2 = 0 then none else ks[p.2 - 1]?) := by
    rintro ⟨d, i⟩ hp
    have hi : i < (c :: cs).length := by
      simpa using List.snd_lt_of_mem_zipIdx (List.mem_reverse.1 hp)
    cases i with
    | zero => rfl
    | succ i =>
      have hi : i < ks.length := by
        simp only [List.length_cons] at hi
        omega
      have hk : ks[i]? = some ks[i] := List.getElem?_eq_getElem hi
      simp [linkOf, decrease, index, hk]
  have hmap : (c :: cs).zipIdx.map (fun p => (p.1, if p.2 = 0 then none else ks[p.2 - 1]?)) =
      (c, none) :: (ks.zip cs).map fun (k, c) => (c, some k) := by
    refine List.ext_getElem (by simp [h]) fun i hi hi' => ?_
    cases i with
    | zero => rfl
    | succ i =>
      simp only [List.length_map, List.length_zipIdx, List.length_cons] at hi
      have hk : ks[i]? = some ks[i] := List.getElem?_eq_getElem (by omega)
      simp [hk]
  rw [mapM_eq_ok hlinks, List.map_reverse, hmap, List.reverse_cons]

theorem ofTokens?_eq (tokens : List Token) : ComplexSelector.ofTokens? tokens =
    (readAll? tokens).bind fun (cs, ks) =>
      if cs.dropLast.any (·.pseudoElement.isSome) then none
      else cs.head?.map fun c =>
        ((ks.zip cs.tail).foldl (fun s (k, c) => s.extend k c) ⟨c, []⟩) := by
  simp only [ComplexSelector.ofTokens?, readAll?_eq tokens, readLinks?_eq]
  cases readCompound? tokens with
  | none => rfl
  | some p =>
    obtain ⟨c, r⟩ := p
    simp only [Option.bind_eq_bind, Option.bind_some]
    split
    · rfl
    · cases readCombinator? r with
      | none => simp
      | some p =>
        cases hall : readAll? p.2 with
        | none => simp [hall]
        | some q =>
          obtain ⟨cs, ks⟩ := q
          have hlength := readAll?_length hall
          cases cs with
          | nil => cases hlength
          | cons c' cs =>
            simp only [hall, Option.bind_some, Option.map_some, List.dropLast_cons_cons,
              List.any_cons]
            cases hc : c.pseudoElement.isSome <;> simp

/-- There is one compound selector at least, and one combinator less than compound selectors. -/
theorem complexSelector_eq (tokens : List Token) :
    complexSelector tokens =
      ofOption ((ComplexSelector.ofTokens? tokens).map ComplexSelector.parts) := by
  rw [complexSelector, loop_links (.start tokens) (Nat.lt_succ_self _), ofTokens?_eq]
  cases hall : readAll? tokens with
  | none => rfl
  | some p =>
    obtain ⟨cs, ks⟩ := p
    have hlength := readAll?_length hall
    cases cs with
    | nil => cases hlength
    | cons c cs =>
      have hslice : slice (c :: cs) 0 cs.length = .ok (c :: cs).dropLast := by
        simp [slice, List.dropLast_eq_take]
      simp only [Option.map_some, List.nil_append, ofOption, ok_bind, List.length_cons, decrease,
        Nat.le_add_left, if_true, Nat.add_sub_cancel, hslice, Option.bind_some]
      split
      · rfl
      · rw [mapM_linkOf c (by simpa using hlength)]
        simp [parts_foldl_extend]
        rfl

theorem mapM_ofOption_map {α β γ : Type} (f : α → Option β) (g : β → γ) (l : List α) :
    l.mapM (fun a => ofOption ((f a).map g)) = ofOption ((l.mapM f).map (·.map g)) := by
  induction l with
  | nil => rfl
  | cons a l ih =>
    rw [List.mapM_cons, List.mapM_cons, ih]
    cases f a with
    | none => rfl
    | some b => cases l.mapM f <;> rfl

theorem selectorList_eq (tokens : List Token) :
    selectorList tokens =
      ofOption ((SelectorList.ofTokens? tokens).map (·.map ComplexSelector.parts)) := by
  have hcomma : ∀ t : Token, (t == .comma) → t.opensGroup = false ∧ t.closesGroup = false := by
    intro t ht
    obtain rfl := beq_iff_eq.1 ht
    exact ⟨rfl, rfl⟩
  simp only [selectorList, piecesAt_start hcomma, ok_bind, trim_eq, complexSelector_eq,
    mapM_ofOption_map, SelectorList.ofTokens?]
  cases hsplit : splitOutside Token.opensGroup Token.closesGroup (· == .comma) 0 tokens with
  | nil => exact absurd hsplit (splitOutside_ne_nil _ _ _ _ _)
  | cons group groups =>
    rw [List.mapM_cons]
    cases ComplexSelector.ofTokens? (trimBlanks group) with
    | none => rfl
    | some s => cases groups.mapM fun group => ComplexSelector.ofTokens? (trimBlanks group) <;> rfl

end WebStyle.Cursor
