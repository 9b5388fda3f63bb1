import WebStyle.Proofs.Cursor.Tokens
import WebStyle.Proofs.Text
import WebStyle.Selector.Nth
import WebStyle.Selector.Parser
/-!
The parts of a compound selector by positions: attribute tests, pseudo-classes and pseudo-elements.
Coefficients of formulas have 32 bits: negations and products stay in range, since the greatest
coefficient is the negative of no integer out of range.
-/
set_option autoImplicit false

namespace WebStyle.Cursor

/-! ### Formulas -/

/-- An integer that has to fit 32 bits. -/
def i32 (n : Int) : Checked Int := within (-2147483648) 2147483647 n

/-- The whole number that a numeral stands for. -/
def coefficient (n : Numeral) : Checked Int :=
  match n.value.toInt? with
  | none => .error .refused
  | some i => if Nth.limit < i.natAbs then .error .refused else i32 i

/-- What is known of the offset of a formula once its step is read. -/
inductive Offset where
  | fixed (offset : Int)
  /-- A number without a sign has to follow. -/
  | unsigned (sign : Int)
  | free

/-- What follows the step, in the name that holds the `n`. -/
def offsetOf : List Char → Checked Offset
  | ['n'] => .ok .free
  | ['n', '-'] => .ok (.unsigned (-1))
  | 'n' :: '-' :: ds =>
    if ds.all Char.isDigit && Text.digitsValue ds ≤ Nth.limit then do
      .ok (.fixed (← i32 (-(← i32 (Text.digitsValue ds)))))
    else .error .refused
  | _ => .error .refused

def unsignedNumber : List Token → Checked (Int × List Token)
  | .number n :: r => do
    if n.integral && !n.isSigned then .ok (← coefficient n, r) else .error .refused
  | _ => .error .refused

/-- The offset, and what follows it. -/
def readOffset (r : List Token) : Offset → Checked (Int × List Token)
  | .fixed b => .ok (b, r)
  | .unsigned sign => do
    let (n, r) ← unsignedNumber r
    .ok (← i32 (sign * n), r)
  | .free =>
    match r with
    | [] => .ok (0, [])
    | .delim '+' :: r => unsignedNumber r
    | .delim '-' :: r => do
      let (n, r) ← unsignedNumber r
      .ok (← i32 (-n), r)
    | .number n :: r => do
      if n.integral && n.isSigned then .ok (← coefficient n, r) else .error .refused
    | _ => .error .refused

/-- The step of a formula, what is known of its offset, and what follows. -/
def readStep (args : List Token) : List Token → Checked (Int × Offset × List Token)
  | .ident name :: r =>
    let name := (Text.lower name).toList
    if name == "odd".toList then .ok (2, .fixed 1, r)
    else if name == "even".toList then .ok (2, .fixed 0, r)
    else match name with
      | '-' :: tail => do .ok (-1, ← offsetOf tail, r)
      | name => do .ok (1, ← offsetOf name, r)
  | .number n :: r => do
    if n.integral then .ok (0, .fixed (← coefficient n), r) else .error .refused
  | .dimension n unit :: r => do
    .ok (← coefficient n, ← offsetOf (Text.lower unit).toList, r)
  | .delim '+' :: r =>
    -- No blank may stand between the sign and what it belongs to.
    match args[1]? with
    | some (Token.ident name) =>
      if name.toList.head? == some '-' then .error .refused
      else do .ok (1, ← offsetOf (Text.lower name).toList, r.tail)
    | _ => .error .refused
  | _ => .error .refused

def nth (args : List Token) : Checked Nth := do
  let (a, offset, r) ← readStep args (args.filter (!·.isBlank))
  let (b, r) ← readOffset r offset
  if r.isEmpty then .ok ⟨a, b⟩ else .error .refused

theorem i32_of_natAbs_le {i : Int} (h : i.natAbs ≤ Nth.limit) : i32 i = .ok i := by
  have : Nth.limit = 2147483647 := rfl
  exact if_pos (by omega)

theorem coefficient_eq (n : Numeral) : coefficient n = ofOption (Nth.coefficient? n) := by
  unfold coefficient Nth.coefficient?
  cases n.value.toInt? with
  | none => rfl
  | some i =>
    by_cases h : i.natAbs ≤ Nth.limit
    · simp [Option.filter_some, h, Nat.not_lt.2 h, i32_of_natAbs_le, ofOption]
    · simp [Option.filter_some, h, Nat.not_le.1 h, ofOption]

theorem natAbs_le_of_coefficient? {n : Numeral} {i : Int} (h : Nth.coefficient? n = some i) :
    i.natAbs ≤ Nth.limit := by
  simpa using (Option.filter_eq_some_iff.1 h).2

/-- Finishes a formula whose step and offset are known, at the end of what is read. -/
def finish (a b : Int) (r : List Token) : Checked Nth :=
  if r.isEmpty then .ok ⟨a, b⟩ else .error .refused

/-- The number without a sign at the end of a formula, or its negative, which is in range too. -/
theorem unsignedNumber_eq (r : List Token) {f : Int → Checked Int} {g : Int → Int}
    (hf : ∀ i : Int, i.natAbs ≤ Nth.limit → f i = .ok (g i)) (a : Int) :
    (unsignedNumber r >>= fun p => f p.1 >>= fun b => finish a b p.2) =
      ofOption ((Nth.unsignedEnd? r).map fun n => ⟨a, g n⟩) := by
  unfold unsignedNumber
  split
  · rename_i n r
    by_cases hn : n.integral && !n.isSigned
    · simp only [hn, if_true, coefficient_eq]
      cases hc : Nth.coefficient? n with
      | none => cases r <;> simp [Nth.unsignedEnd?, hn, hc, ofOption]
      | some i =>
        have := hf i (natAbs_le_of_coefficient? hc)
        cases r <;> simp [Nth.unsignedEnd?, hn, hc, ofOption, this, finish]
    · cases r <;> simp [Nth.unsignedEnd?, hn, ofOption]
  · rename_i hne
    unfold Nth.unsignedEnd?
    split
    · exact (hne _ _ rfl).elim
    · rfl

theorem readOffset_free_eq (r : List Token) (a : Int) :
    (readOffset r .free >>= fun p => finish a p.1 p.2) =
      ofOption ((Nth.offset? r).map fun b => ⟨a, b⟩) := by
  unfold readOffset
  split
  · cases ‹Offset.free = _›
  · cases ‹Offset.free = _›
  · split
    · rfl
    · exact unsignedNumber_eq _ (g := id) (fun i _ => rfl) a
    · rename_i r
      have hread := unsignedNumber_eq r (g := fun i => -i)
        (fun i hi => i32_of_natAbs_le (by omega)) a
      have hmap : Nth.offset? (.delim '-' :: r) = (Nth.unsignedEnd? r).map fun i => -i := rfl
      rw [hmap, Option.map_map, Function.comp_def, ← hread]
      cases unsignedNumber r with
      | error stop => rfl
      | ok p => cases hi : i32 (-p.1) <;> simp [hi]
    · rename_i n r
      by_cases hn : n.integral && n.isSigned
      · simp only [hn, if_true, coefficient_eq]
        cases hc : Nth.coefficient? n with
        | none => cases r <;> simp [Nth.offset?, hn, hc, ofOption]
        | some i => cases r <;> simp [Nth.offset?, hn, hc, ofOption, finish]
      · cases r <;> simp [Nth.offset?, hn, ofOption]
    · rename_i hnil hplus hminus hnumber
      unfold Nth.offset?
      split
      · exact (hnil rfl).elim
      · exact (hplus _ rfl).elim
      · exact (hminus _ rfl).elim
      · exact (hnumber _ _ rfl).elim
      · rfl

theorem finish_eq (a : Int) (name : List Char) (r : List Token) :
    (offsetOf name >>= fun offset => readOffset r offset >>= fun p => finish a p.1 p.2) =
      ofOption (Nth.ofName? a name r) := by
  unfold offsetOf
  split
  · exact readOffset_free_eq r a
  · have hread := unsignedNumber_eq r (f := fun n => i32 (-1 * n)) (g := fun i => -i)
      (fun i hi => by rw [Int.neg_one_mul]; exact i32_of_natAbs_le (by omega)) a
    rw [Nth.ofName?, ← hread]
    simp only [ok_bind, readOffset]
    cases unsignedNumber r with
    | error stop => rfl
    | ok p => cases i32 (-1 * p.1) <;> simp
  · rename_i ds hds
    have hof : Nth.ofName? a ('n' :: '-' :: ds) r =
        if r.isEmpty && ds.all Char.isDigit && Text.digitsValue ds ≤ Nth.limit then
          some ⟨a, -(Text.digitsValue ds : Int)⟩
        else none := by
      cases ds with
      | nil => exact (hds rfl).elim
      | cons d ds => rfl
    rw [hof]
    by_cases hdigits : ds.all Char.isDigit && Text.digitsValue ds ≤ Nth.limit
    · have hle : Text.digitsValue ds ≤ Nth.limit := by
        simpa using (Bool.and_eq_true_iff.1 hdigits).2
      rw [if_pos hdigits, i32_of_natAbs_le (by simpa using hle), ok_bind,
        i32_of_natAbs_le (by simpa using hle)]
      cases r with
      | nil => simp [readOffset, finish, ofOption, hdigits]
      | cons t r => rfl
    · rw [if_neg hdigits]
      cases r with
      | nil => simp [ofOption, hdigits]
      | cons t r => rfl
  · rename_i hn hhyphen hdigits
    unfold Nth.ofName?
    split
    · exact (hn rfl).elim
    · exact (hhyphen rfl).elim
    · exact (hdigits _ rfl).elim
    · rfl

/-- What comes of a formula once its first tokens are read. -/
def rest (p : Int × Offset × List Token) : Checked Nth :=
  readOffset p.2.2 p.2.1 >>= fun q => finish p.1 q.1 q.2

theorem nth_of_readStep {args : List Token} {x : Checked (Int × Offset × List Token)}
    (h : readStep args (args.filter (!·.isBlank)) = x) : nth args = x >>= rest := by
  rw [nth, h]
  rfl

theorem rest_offsetOf (a : Int) (name : List Char) (r : List Token) :
    ((do .ok (a, ← offsetOf name, r)) >>= rest) = ofOption (Nth.ofName? a name r) := by
  rw [← finish_eq]
  cases offsetOf name <;> rfl

theorem nth_ident {args r : List Token} {name : String}
    (h : args.filter (!·.isBlank) = .ident name :: r) :
    nth args = ofOption (Nth.ofIdent? (Text.lower name).toList r) := by
  rw [nth_of_readStep (congrArg (readStep args) h)]
  unfold readStep Nth.ofIdent?
  by_cases hodd : (Text.lower name).toList == "odd".toList
  · simp only [hodd, if_true, ok_bind, rest, readOffset, finish]
    split <;> rfl
  · by_cases heven : (Text.lower name).toList == "even".toList
    · simp only [hodd, heven, Bool.false_eq_true, if_false, if_true, ok_bind, rest, readOffset,
        finish]
      split <;> rfl
    · simp only [hodd, heven, Bool.false_eq_true, if_false]
      rcases (Text.lower name).toList with _ | ⟨c, tail⟩
      · exact rest_offsetOf _ _ _
      · by_cases hc : c = '-'
        · subst hc
          exact rest_offsetOf _ _ _
        · simp only [List.cons.injEq, hc, false_and, imp_self, implies_true]
          exact rest_offsetOf _ _ _

/-- A name that starts with a hyphen holds no formula, since its `n` would not come first. -/
theorem ofName?_lower_of_hyphen {name : String} (h : name.toList.head? = some '-') (a : Int)
    (r : List Token) : Nth.ofName? a (Text.lower name).toList r = none := by
  rw [Text.toList_lower]
  cases hname : name.toList with
  | nil => simp [hname] at h
  | cons c cs =>
    obtain rfl : c = '-' := by simpa [hname] using h
    rfl

theorem nth_plus (name : String) (r : List Token) :
    nth (.delim '+' :: .ident name :: r) =
      ofOption (Nth.ofName? 1 (Text.lower name).toList (r.filter (!·.isBlank))) := by
  rw [nth_of_readStep rfl]
  simp only [List.filter_cons, Token.isBlank, Bool.not_false, if_true, readStep,
    List.getElem?_cons_succ, List.getElem?_cons_zero, List.tail_cons]
  split
  · rename_i hhyphen
    rw [ofName?_lower_of_hyphen (by simpa using hhyphen)]
    rfl
  · exact rest_offsetOf _ _ _

/-- Only a name that follows at once belongs to a plus sign. -/
theorem readStep_plus {args r : List Token} (h : args.filter (!·.isBlank) = .delim '+' :: r)
    (hne : ∀ name us, args ≠ .delim '+' :: .ident name :: us) :
    readStep args (.delim '+' :: r) = .error .refused := by
  have hsecond : ∀ name, args[1]? ≠ some (.ident name) := by
    intro name hname
    rcases args with _ | ⟨t, _ | ⟨u, args⟩⟩
    · cases hname
    · cases hname
    · obtain rfl : u = .ident name := by simpa using hname
      cases ht : t.isBlank with
      | true =>
        rw [List.filter_cons_of_neg (by simp [ht]), List.filter_cons_of_pos rfl] at h
        cases h
      | false =>
        rw [List.filter_cons_of_pos (by simp [ht])] at h
        obtain rfl : t = .delim '+' := (List.cons.inj h).1
        exact hne name args rfl
  rw [readStep]
  split
  · rename_i name hname
    exact absurd hname (hsecond name)
  · rfl

theorem nth_eq (args : List Token) : nth args = ofOption (Nth.ofTokens? args) := by
  unfold Nth.ofTokens?
  split
  · exact nth_plus _ _
  · rename_i hplus
    split
    · rename_i h
      exact nth_ident h
    · rename_i n unit r h
      rw [nth_of_readStep (congrArg (readStep args) h), readStep, coefficient_eq]
      cases Nth.coefficient? n with
      | none => rfl
      | some a => exact rest_offsetOf _ _ _
    · rename_i n h
      rw [nth_of_readStep (congrArg (readStep args) h), readStep, coefficient_eq]
      cases n.integral with
      | false => rfl
      | true => cases Nth.coefficient? n <;> rfl
    · rename_i hident hdimension hnumber
      cases hfilter : args.filter (!·.isBlank) with
      | nil =>
        rw [nth_of_readStep (congrArg (readStep args) hfilter)]
        rfl
      | cons t r =>
        rw [nth_of_readStep (congrArg (readStep args) hfilter)]
        cases t with
        | ident name => exact (hident _ _ hfilter).elim
        | dimension n unit => exact (hdimension _ _ _ hfilter).elim
        | number n =>
          cases r with
          | nil => exact (hnumber _ hfilter).elim
          | cons u r =>
            rw [readStep, coefficient_eq]
            cases n.integral with
            | false => rfl
            | true => cases Nth.coefficient? n <;> rfl
        | delim c =>
          by_cases hc : c = '+'
          · subst hc
            rw [readStep_plus hfilter fun name us h => hplus name us h]
            rfl
          · simp [readStep, ofOption, hc]
        | _ => rfl

open WebStyle.SelectorReader

/-! ### Attribute tests -/

/-- The operator before a value in square brackets. -/
def operatorAt (tokens : List Token) (pos : Nat) : Checked (AttributeOperator × Nat) :=
  match tokens[pos]?, tokens[pos + 1]? with
  | some (.delim '='), _ => .ok (.equals, pos + 1)
  | some (.delim '~'), some (.delim '=') => .ok (.includes, pos + 2)
  | some (.delim '|'), some (.delim '=') => .ok (.dashMatch, pos + 2)
  | some (.delim '^'), some (.delim '=') => .ok (.startsWith, pos + 2)
  | some (.delim '$'), some (.delim '=') => .ok (.endsWith, pos + 2)
  | some (.delim '*'), some (.delim '=') => .ok (.contains, pos + 2)
  | _, _ => .error .refused

/-- The value of a comparison, with the blanks after it. -/
def valueAt (tokens : List Token) (pos : Nat) : Checked (String × Nat) :=
  match tokens[pos]? with
  | some (.ident value) | some (.string value) => do
    .ok (value, ← skipBlanksAt tokens (pos + 1))
  | _ => .error .refused

/-- The flag after a value, if there is one. -/
def flagAt (tokens : List Token) (pos : Nat) : Checked (Bool × Nat) :=
  match tokens[pos]? with
  | some (.ident flag) => do
    let next ← skipBlanksAt tokens (pos + 1)
    match Text.lower flag with
    | "i" => .ok (true, next)
    | "s" => .ok (false, next)
    | _ => .error .refused
  | _ => .ok (false, pos)

def comparisonAt (tokens : List Token) (name : String) (pos : Nat) :
    Checked (AttributeTest × Nat) := do
  let (operator, pos) ← operatorAt tokens pos
  let pos ← skipBlanksAt tokens pos
  let (value, pos) ← valueAt tokens pos
  let (ignoreCase, pos) ← flagAt tokens pos
  match tokens[pos]? with
  | some .closeSquare => .ok (.compares name operator value ignoreCase, pos + 1)
  | _ => .error .refused

/-- The attribute test after an opening bracket. -/
def attributeAt (tokens : List Token) (pos : Nat) : Checked (AttributeTest × Nat) := do
  let pos ← skipBlanksAt tokens pos
  match tokens[pos]? with
  | some (.ident name) =>
    let pos ← skipBlanksAt tokens (pos + 1)
    match tokens[pos]? with
    | some .closeSquare => .ok (.present (Text.lower name), pos + 1)
    | _ => comparisonAt tokens (Text.lower name) pos
  | _ => .error .refused

section Attribute
variable {tokens r : List Token} {pos : Nat}

theorem operatorAt_follows (h : At tokens pos r) :
    Follows tokens (operatorAt tokens pos) (readOperator? r) := by
  have hfirst := h.getElem?
  have hsecond := h.getElem?_add 1
  unfold readOperator?
  split
  case h_1 =>
    simp only [operatorAt, hfirst]
    exact .of_at h.next _
  case h_7 hequals hincludes hdash hstarts hends hcontains =>
    have hnone : ∀ c d, tokens[pos]? = some (.delim c) → tokens[pos + 1]? = some (.delim d) →
        ∃ r', r = .delim c :: .delim d :: r' := by
      intro c d hc hd
      obtain ⟨r', rfl⟩ := h.eq_cons hc
      obtain ⟨r', rfl⟩ := h.next.eq_cons hd
      exact ⟨r', rfl⟩
    unfold operatorAt
    split
    · rename_i hc
      obtain ⟨r', rfl⟩ := h.eq_cons hc
      exact (hequals _ rfl).elim
    · obtain ⟨r', rfl⟩ := hnone _ _ ‹_› ‹_›
      exact (hincludes _ rfl).elim
    · obtain ⟨r', rfl⟩ := hnone _ _ ‹_› ‹_›
      exact (hdash _ rfl).elim
    · obtain ⟨r', rfl⟩ := hnone _ _ ‹_› ‹_›
      exact (hstarts _ rfl).elim
    · obtain ⟨r', rfl⟩ := hnone _ _ ‹_› ‹_›
      exact (hends _ rfl).elim
    · obtain ⟨r', rfl⟩ := hnone _ _ ‹_› ‹_›
      exact (hcontains _ rfl).elim
    · rfl
  all_goals
    simp only [List.getElem?_cons_zero, List.getElem?_cons_succ] at hfirst hsecond
    simp only [operatorAt, hfirst, hsecond]
    exact .of_at h.next.next _

theorem valueAt_follows (h : At tokens pos r) :
    Follows tokens (valueAt tokens pos) (readValue? r) := by
  unfold valueAt readValue?
  rw [h.getElem?]
  rcases r with _ | ⟨t, r⟩
  · rfl
  · obtain ⟨next, hskip, hnext⟩ := skipBlanksAt_at h.next
    cases t with
    | ident value =>
      simp only [List.getElem?_cons_zero, hskip]
      exact .of_at hnext _
    | string value =>
      simp only [List.getElem?_cons_zero, hskip]
      exact .of_at hnext _
    | _ => rfl

theorem flagAt_follows (h : At tokens pos r) :
    Follows tokens (flagAt tokens pos) (readFlag? r) := by
  unfold flagAt readFlag?
  rw [h.getElem?]
  rcases r with _ | ⟨t, r⟩
  · exact .of_at h _
  · cases t with
    | ident flag =>
      obtain ⟨next, hskip, hnext⟩ := skipBlanksAt_at h.next
      simp only [List.getElem?_cons_zero, hskip, ok_bind]
      generalize Text.lower flag = word
      by_cases hi : word = "i"
      · subst hi
        exact .of_at hnext _
      · by_cases hs : word = "s"
        · subst hs
          exact .of_at hnext _
        · simp only
          rfl
    | _ => exact .of_at h _

theorem comparisonAt_follows (h : At tokens pos r) (name : String) :
    Follows tokens (comparisonAt tokens name pos) (readComparison? name r) := by
  refine (operatorAt_follows h).bind fun operator _ _ _ hoperator => ?_
  obtain ⟨_, hskip, hblank⟩ := skipBlanksAt_at hoperator
  simp only [hskip, ok_bind]
  refine (valueAt_follows hblank).bind fun value _ _ _ hvalue => ?_
  refine (flagAt_follows hvalue).bind fun ignoreCase r pos _ hflag => ?_
  simp only [hflag.getElem?]
  rcases r with _ | ⟨t, r⟩
  · rfl
  · cases t with
    | closeSquare => exact .of_at hflag.next _
    | _ => rfl

theorem attributeAt_follows (h : At tokens pos r) :
    Follows tokens (attributeAt tokens pos) (readAttribute? r) := by
  obtain ⟨pos, hskip, hname⟩ := skipBlanksAt_at h
  unfold attributeAt readAttribute?
  simp only [hskip, ok_bind, hname.getElem?]
  generalize skipBlanks r = r at hname ⊢
  rcases r with _ | ⟨t, r⟩
  · rfl
  · cases t with
    | ident name =>
      obtain ⟨pos, hskip, hclose⟩ := skipBlanksAt_at hname.next
      simp only [List.getElem?_cons_zero, hskip, ok_bind, hclose.getElem?]
      generalize skipBlanks r = r at hclose ⊢
      rcases r with _ | ⟨t, r⟩
      · exact comparisonAt_follows hclose _
      · cases t with
        | closeSquare => exact .of_at hclose.next _
        | _ => exact comparisonAt_follows hclose _
    | _ => rfl

end Attribute

/-! ### Parts -/

/-- One part of a compound selector. -/
inductive Part where
  | simple (s : SimpleSelector)
  | element (p : PseudoElement)

def Part.ofCondition (c : Condition) : Part := .simple (.plain c)

/-- The argument of a function, without the blanks at its ends. -/
def argumentsAt (tokens : List Token) (pos : Nat) : Checked (List Token × Nat) := do
  match ← closeAt 0 pos (tokens.drop pos) with
  | some close => .ok (← trim (← slice tokens pos close), close + 1)
  | none => .error .refused

/-- A pseudo-class or a pseudo-element, from its first colon on. Negations are read as given. -/
def pseudoAt (negated : List Token → Checked (List Condition)) (tokens : List Token) (pos : Nat) :
    Checked (Part × Nat) :=
  match tokens[pos + 1]? with
  | some .colon =>
    match tokens[pos + 2]? with
    | some (.ident name) => do .ok (.element (← ofOption (PseudoElement.ofKey? name)), pos + 3)
    | _ => .error .refused
  | some (.ident name) =>
    match PseudoElement.ofKey? name with
    | some p => .ok (.element p, pos + 2)
    | none => do .ok (.ofCondition (.pseudoClass (← ofOption (PseudoClass.ofName? name))), pos + 2)
  | some (.function name) => do
    let (args, next) ← argumentsAt tokens (pos + 2)
    if Text.sameIgnoringCase name "not" then .ok (.simple (.negation (← negated args)), next)
    else
      let p ← ofOption (PseudoClass.ofFormula? name (← nth args))
      .ok (.ofCondition (.pseudoClass p), next)
  | _ => .error .refused

def partAt (negated : List Token → Checked (List Condition)) (tokens : List Token) (pos : Nat) :
    Checked (Part × Nat) := do
  match ← index tokens pos with
  | .hash name true => .ok (.ofCondition (.id name), pos + 1)
  | .delim '.' =>
    match tokens[pos + 1]? with
    | some (.ident name) => .ok (.ofCondition (.hasClass name), pos + 2)
    | _ => .error .refused
  | .openSquare =>
    let (test, next) ← attributeAt tokens (pos + 1)
    .ok (.ofCondition (.attribute test), next)
  | .colon => pseudoAt negated tokens pos
  | _ => .error .refused

/-- A part, and what follows it. -/
def readPart? (ts : List Token) : Option (Part × List Token) :=
  match readElement? ts with
  | some (p, r) => some (.element p, r)
  | none => (readSimple? ts).map fun (s, r) => (.simple s, r)

/-- Whether negations are read from the arguments that tokens can hold. -/
def ReadsNegations (tokens : List Token) (negated : List Token → Checked (List Condition)) : Prop :=
  ∀ args, args.length < tokens.length → negated args = ofOption (readNegated? args)

section Part
variable {tokens r : List Token} {pos : Nat} {negated : List Token → Checked (List Condition)}

/-- The argument of a function, and what follows it. -/
def readArguments? (ts : List Token) : Option (List Token × List Token) :=
  (splitArguments? ts).map fun p => (trimBlanks p.1, p.2)

theorem splitArguments?_eq (ts : List Token) :
    splitArguments? ts = splitAtClose? Token.opensArguments (· == .closeParen) 0 ts := rfl

theorem argumentsAt_follows (h : At tokens pos r) :
    Follows tokens (argumentsAt tokens pos) (readArguments? r) := by
  rw [readArguments?, splitArguments?_eq, argumentsAt, h.drop, closeAt_eq, ok_bind]
  cases hsplit : splitAtClose? Token.opensArguments (· == .closeParen) 0 r with
  | none => rfl
  | some p =>
    obtain ⟨hslice, hnext⟩ := h.group hsplit
    simp only [Option.map_some, hslice, ok_bind, trim_eq]
    exact .of_at hnext _

theorem length_trimBlanks_le (ts : List Token) : (trimBlanks ts).length ≤ ts.length := by
  have hleft := (List.dropWhile_sublist Token.isBlank (l := ts)).length_le
  have hright := (List.dropWhile_sublist Token.isBlank
    (l := (ts.dropWhile Token.isBlank).reverse)).length_le
  rw [List.length_reverse] at hright
  exact List.length_reverse.trans_le (hright.trans hleft)

/-- An argument is shorter than the tokens it stands in. -/
theorem length_lt_of_readArguments? (h : At tokens pos r) {p : List Token × List Token}
    (hp : readArguments? r = some p) : p.1.length < tokens.length := by
  obtain ⟨q, hq, rfl⟩ := Option.map_eq_some_iff.1 hp
  have := splitAtClose?_length hq
  have := h.length
  refine (length_trimBlanks_le q.1).trans_lt ?_
  omega

theorem readPart?_openSquare (r : List Token) : readPart? (.openSquare :: r) =
    (readAttribute? r).bind fun (test, r) => some (.ofCondition (.attribute test), r) := by
  simp only [readPart?, readElement?, readSimple?, readCondition?]
  cases readAttribute? r <;> rfl

theorem readPart?_function (name : String) (r : List Token) :
    readPart? (.colon :: .function name :: r) = (readArguments? r).bind fun (args, r) =>
      (if Text.sameIgnoringCase name "not" then
          (readNegated? args).map fun cs => Part.simple (.negation cs)
        else ((Nth.ofTokens? args).bind (PseudoClass.ofFormula? name)).map
          fun p => Part.ofCondition (.pseudoClass p)).map (·, r) := by
  simp only [readPart?, readElement?, readSimple?, readCondition?, readArguments?]
  cases splitArguments? r with
  | none => split <;> rfl
  | some p =>
    split
    · cases h : readNegated? (trimBlanks p.1) <;> simp [h]
    · cases hf : Nth.ofTokens? (trimBlanks p.1) with
      | none => simp [hf]
      | some f => cases hp : PseudoClass.ofFormula? name f <;> simp [hf, hp, Part.ofCondition]

theorem pseudoAt_follows (h : At tokens pos (.colon :: r))
    (hnegated : ReadsNegations tokens negated) :
    Follows tokens (pseudoAt negated tokens pos) (readPart? (.colon :: r)) := by
  have hsecond := h.getElem?_add 1
  have hthird := h.getElem?_add 2
  simp only [List.getElem?_cons_succ] at hsecond hthird
  unfold pseudoAt
  rw [hsecond, hthird]
  rcases r with _ | ⟨t, r⟩
  · rfl
  · cases t with
    | colon =>
      rcases r with _ | ⟨t, r⟩
      · rfl
      · cases t with
        | ident name =>
          simp only [List.getElem?_cons_zero, List.getElem?_cons_succ, readPart?, readElement?]
          cases PseudoElement.ofKey? name with
          | none => rfl
          | some p => exact .of_at h.next.next.next _
        | _ => rfl
    | ident name =>
      simp only [List.getElem?_cons_zero, readPart?, readElement?, readSimple?, readCondition?]
      cases PseudoElement.ofKey? name with
      | some p => exact .of_at h.next.next _
      | none =>
        cases PseudoClass.ofName? name with
        | none => rfl
        | some p => exact .of_at h.next.next _
    | function name =>
      simp only [List.getElem?_cons_zero, readPart?_function]
      refine (argumentsAt_follows h.next.next).bind fun args r pos hargs hnext => ?_
      dsimp only
      rw [hnegated args (length_lt_of_readArguments? h.next.next hargs), nth_eq]
      split
      · cases readNegated? args with
        | none => rfl
        | some cs => exact .of_at hnext _
      · cases Nth.ofTokens? args with
        | none => rfl
        | some f =>
          simp only [ofOption, ok_bind, Option.bind_some]
          cases PseudoClass.ofFormula? name f with
          | none => rfl
          | some p => exact .of_at hnext _
    | _ => rfl

theorem partAt_follows {t : Token} (h : At tokens pos (t :: r))
    (hnegated : ReadsNegations tokens negated) :
    Follows tokens (partAt negated tokens pos) (readPart? (t :: r)) := by
  rw [partAt, h.index, ok_bind]
  cases t with
  | hash name isId =>
    cases isId with
    | true => exact .of_at h.next _
    | false => rfl
  | delim c =>
    by_cases hc : c = '.'
    · subst hc
      simp only [h.getElem?_add 1, List.getElem?_cons_succ]
      rcases r with _ | ⟨t, r⟩
      · rfl
      · cases t with
        | ident name => exact .of_at h.next.next _
        | _ => rfl
    · simp [hc, readPart?, readElement?, readSimple?, readCondition?, Follows]
  | openSquare =>
    rw [readPart?_openSquare]
    exact (attributeAt_follows h.next).bind fun _ _ _ _ hnext => .of_at hnext _
  | colon => exact pseudoAt_follows h hnegated
  | _ => rfl

end Part

end WebStyle.Cursor
