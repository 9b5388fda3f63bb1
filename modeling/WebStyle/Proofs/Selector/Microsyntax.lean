import WebStyle.Proofs.Number.Rounding
import WebStyle.Proofs.Selector.Formula
import WebStyle.Proofs.Sequence
import WebStyle.Proofs.Token.Proper
/-!
The microsyntax of formulas, as CSS Syntax Level 3, section 6.2, gives it token by token, and that
exactly its formulas are read. There is one exception: the number that makes up the start of a
dimension may have a fraction or an exponent, as long as the double nearest to it is whole.
-/
set_option autoImplicit false

namespace WebStyle

open Lexer

/-- The whole number that the digits and the sign of a numeral make. -/
def Numeral.integer (n : Numeral) : Int := Binary64.signed n.negative n.digits

/-! ### Numerals that were read -/

/-- Whether the numeral of a token, if it has one, has no exponent where none was written. -/
def Token.IsScaled : Token → Prop
  | .number n | .percentage n | .dimension n _ => n.integral = true → n.exponent = 0
  | _ => True

namespace Lexer

theorem exponent_read (cs : List Char) (h : (Numeral.read cs).1.integral = true) :
    (Numeral.read cs).1.exponent = 0 := by
  simp only [Numeral.read, Bool.and_eq_true, List.isEmpty_iff, Option.isNone_iff_eq_none] at h ⊢
  rw [h.1, h.2]
  rfl

theorem isScaled_readToken (c : Char) (r : List Char) : (readToken c r).1.IsScaled := by
  have hsingle : ∀ c, (single c).IsScaled := by
    intro c
    unfold single
    split <;> trivial
  unfold readToken
  split
  · unfold readQuoted
    split <;> trivial
  split
  · split
    · trivial
    · exact hsingle c
  split
  · simp only [readNumeric]
    split
    · exact exponent_read (c :: r)
    · split <;> exact exponent_read (c :: r)
  split
  · split
    · trivial
    · exact hsingle c
  split
  · trivial
  split
  · trivial
  split
  · unfold readNamed
    split
    · dsimp only
      split
      · split <;> trivial
      · trivial
    · trivial
  · exact hsingle c

theorem isScaled_tokens (cs : List Char) : ∀ t ∈ tokens cs, t.IsScaled := by
  fun_induction tokens cs with
  | case1 => simp
  | case2 cs t rest hnext hlt ih =>
    refine List.forall_mem_cons.2 ⟨?_, ih⟩
    unfold next? at hnext
    split at hnext
    · obtain ⟨rfl, -⟩ := Prod.mk.inj (Option.some.inj hnext)
      trivial
    · cases hnext
    · rename_i c r _
      have ht := isScaled_readToken c r
      rwa [Option.some.inj hnext] at ht

end Lexer

namespace Nth

variable {start : Numeral → Int → Prop} {n : Numeral} {a b i : Int} {f : Nth} {ts us : List Token}
  {name : List Char} {s : String}

/-! ### The grammar -/

/-- Whether a numeral is written as a whole number, and that is within the limit. -/
structure IsInteger (n : Numeral) (i : Int) : Prop where
  integral : n.integral = true
  eq : n.integer = i
  le : i.natAbs ≤ limit

/-- The tokens of the step: what it is, and the rest of the name that it shares with the offset, in
lower case from the `n` on. Nothing stands between a plus sign and the name. -/
inductive Leads (start : Numeral → Int → Prop) : List Token → Int → List Char → Prop where
  | dimension {n : Numeral} {a : Int} (unit : String) (h : start n a) :
      Leads start [.dimension n unit] a (Text.lower unit).toList
  | ident (s : String) : Leads start [.ident s] 1 (Text.lower s).toList
  | plus (s : String) : Leads start [.delim '+', .ident s] 1 (Text.lower s).toList
  | minus {s : String} {name : List Char} (h : (Text.lower s).toList = '-' :: name) :
      Leads start [.ident s] (-1) name

/-- The offset: the end of the name, and the tokens after it. -/
inductive Follows : List Char → List Token → Int → Prop where
  | none : Follows ['n'] [] 0
  | signed {n : Numeral} {b : Int} (h : IsInteger n b) (hs : n.isSigned = true) :
      Follows ['n'] [.number n] b
  | plus {n : Numeral} {b : Int} (h : IsInteger n b) (hs : n.isSigned = false) :
      Follows ['n'] [.delim '+', .number n] b
  | minus {n : Numeral} {b : Int} (h : IsInteger n b) (hs : n.isSigned = false) :
      Follows ['n'] [.delim '-', .number n] (-b)
  | hyphen {n : Numeral} {b : Int} (h : IsInteger n b) (hs : n.isSigned = false) :
      Follows ['n', '-'] [.number n] (-b)
  | digits {ds : List Char} (hne : ds ≠ []) (hds : ∀ c ∈ ds, c.isDigit)
      (hle : Text.digitsValue ds ≤ limit) :
      Follows ('n' :: '-' :: ds) [] (-(Text.digitsValue ds : Int))

/-- The tokens of a formula. Blanks are ignored but before the offset starts. The numerals that may
start a dimension are those of `start`. -/
inductive Written (start : Numeral → Int → Prop) : List Token → Nth → Prop where
  | odd {s : String} (h : Text.lower s = "odd") : Written start [.ident s] ⟨2, 1⟩
  | even {s : String} (h : Text.lower s = "even") : Written start [.ident s] ⟨2, 0⟩
  | whole {n : Numeral} {b : Int} (h : IsInteger n b) : Written start [.number n] ⟨0, b⟩
  | formula {ts us : List Token} {a b : Int} {name : List Char} (hl : Leads start ts a name)
      (hf : Follows name (us.filter (!·.isBlank)) b) : Written start (ts ++ us) ⟨a, b⟩

/-- Whether a numeral is written as a whole number or, with a fraction or an exponent, rounds to
one, which is within the limit. -/
def RoundsToInteger (n : Numeral) (i : Int) : Prop :=
  IsInteger n i ∨ n.integral = false ∧ n.value.toInt? = some i ∧ i.natAbs ≤ limit

/-! ### Numerals -/

theorem coefficient?_iff_toInt? :
    coefficient? n = some i ↔ n.value.toInt? = some i ∧ i.natAbs ≤ limit := by
  rw [coefficient?, Option.filter_eq_some_iff, decide_eq_true_eq]

/-- Whole numbers are read exactly, or are beyond the limit. -/
theorem coefficient?_iff_integer (h : n.exponent = 0) :
    coefficient? n = some i ↔ n.integer = i ∧ i.natAbs ≤ limit := by
  rw [coefficient?_iff_toInt?, Numeral.value, h]
  by_cases hdigits : n.digits < 2 ^ 53
  · rw [Binary64.toInt?_ofDecimal hdigits, Option.some_inj]
    exact Iff.rfl
  · have hlimit : limit < 2 ^ 53 := by decide
    constructor
    · rintro ⟨hi, hle⟩
      have := Binary64.le_natAbs_of_toInt?_ofDecimal (Nat.le_of_not_lt hdigits) hi
      omega
    · rintro ⟨rfl, hle⟩
      rw [Numeral.integer, Binary64.natAbs_signed] at hle
      omega

theorem isInteger_iff (h : n.integral = true → n.exponent = 0) :
    IsInteger n i ↔ n.integral = true ∧ coefficient? n = some i := by
  constructor
  · rintro ⟨hintegral, hinteger, hle⟩
    exact ⟨hintegral, (coefficient?_iff_integer (h hintegral)).2 ⟨hinteger, hle⟩⟩
  · rintro ⟨hintegral, hcoefficient⟩
    obtain ⟨hinteger, hle⟩ := (coefficient?_iff_integer (h hintegral)).1 hcoefficient
    exact ⟨hintegral, hinteger, hle⟩

theorem roundsToInteger_iff (h : n.integral = true → n.exponent = 0) :
    RoundsToInteger n i ↔ coefficient? n = some i := by
  rw [RoundsToInteger, isInteger_iff h, ← coefficient?_iff_toInt?]
  cases n.integral <;> simp

/-! ### Reading the tokens -/

theorem unsignedEnd?_iff (hts : ∀ t ∈ ts, t.IsScaled) : unsignedEnd? ts = some i ↔
    ∃ n, ts = [.number n] ∧ IsInteger n i ∧ n.isSigned = false := by
  constructor
  · intro h
    unfold unsignedEnd? at h
    split at h
    · rename_i n
      split at h
      · rename_i hn
        obtain ⟨hintegral, hs⟩ := Bool.and_eq_true_iff.1 hn
        have hn' := (isInteger_iff (hts _ List.mem_cons_self)).2 ⟨hintegral, h⟩
        exact ⟨n, rfl, hn', by simpa using hs⟩
      · cases h
    · cases h
  · rintro ⟨n, rfl, hn, hs⟩
    obtain ⟨hintegral, h⟩ := (isInteger_iff (hts _ List.mem_cons_self)).1 hn
    simp only [unsignedEnd?, hintegral, hs, Bool.not_false, Bool.and_self, ↓reduceIte, h]

/-- What may follow a bare `n`. -/
theorem offset?_iff (hts : ∀ t ∈ ts, t.IsScaled) : offset? ts = some b ↔ Follows ['n'] ts b := by
  constructor
  · intro h
    unfold offset? at h
    split at h
    · obtain rfl := Option.some.inj h
      exact .none
    · obtain ⟨n, rfl, hn, hs⟩ := (unsignedEnd?_iff (List.forall_mem_cons.1 hts).2).1 h
      exact .plus hn hs
    · obtain ⟨i, hi, rfl⟩ := Option.map_eq_some_iff.1 h
      obtain ⟨n, rfl, hn, hs⟩ := (unsignedEnd?_iff (List.forall_mem_cons.1 hts).2).1 hi
      exact .minus hn hs
    · split at h
      · rename_i hn
        obtain ⟨hintegral, hs⟩ := Bool.and_eq_true_iff.1 hn
        exact .signed ((isInteger_iff (hts _ List.mem_cons_self)).2 ⟨hintegral, h⟩) hs
      · cases h
    · cases h
  · intro h
    cases h with
    | none => rfl
    | signed hn hs =>
      obtain ⟨hintegral, h⟩ := (isInteger_iff (hts _ List.mem_cons_self)).1 hn
      simp only [offset?, hintegral, hs, Bool.and_self, ↓reduceIte, h]
    | plus hn hs =>
      exact (unsignedEnd?_iff (List.forall_mem_cons.1 hts).2).2 ⟨_, rfl, hn, hs⟩
    | minus hn hs =>
      exact congrArg (Option.map (-·))
        ((unsignedEnd?_iff (List.forall_mem_cons.1 hts).2).2 ⟨_, rfl, hn, hs⟩)

/-- What may follow the step. -/
theorem ofName?_iff (hts : ∀ t ∈ ts, t.IsScaled) :
    ofName? a name ts = some f ↔ ∃ b, Follows name ts b ∧ f = ⟨a, b⟩ := by
  constructor
  · intro h
    unfold ofName? at h
    split at h
    · obtain ⟨b, hb, rfl⟩ := Option.map_eq_some_iff.1 h
      exact ⟨b, (offset?_iff hts).1 hb, rfl⟩
    · obtain ⟨b, hb, rfl⟩ := Option.map_eq_some_iff.1 h
      obtain ⟨n, rfl, hn, hs⟩ := (unsignedEnd?_iff hts).1 hb
      exact ⟨-b, .hyphen hn hs, rfl⟩
    · rename_i ds hne
      split at h
      · rename_i hds
        simp only [Bool.and_eq_true, List.isEmpty_iff, List.all_eq_true, decide_eq_true_eq] at hds
        obtain ⟨⟨rfl, hdigits⟩, hle⟩ := hds
        exact ⟨_, .digits hne hdigits hle, (Option.some.inj h).symm⟩
      · cases h
    · cases h
  · rintro ⟨b, h, rfl⟩
    cases h with
    | hyphen hn hs =>
      exact congrArg (Option.map _) ((unsignedEnd?_iff hts).2 ⟨_, rfl, hn, hs⟩)
    | @digits ds hne hds hle =>
      obtain ⟨c, cs, rfl⟩ := List.exists_cons_of_ne_nil hne
      have hall : (c :: cs).all Char.isDigit = true := List.all_eq_true.2 hds
      simp only [ofName?, List.isEmpty_nil, hall, hle, decide_true, Bool.and_self, ↓reduceIte]
    | none => exact congrArg (Option.map _) ((offset?_iff hts).2 .none)
    | signed hn hs => exact congrArg (Option.map _) ((offset?_iff hts).2 (.signed hn hs))
    | plus hn hs => exact congrArg (Option.map _) ((offset?_iff hts).2 (.plus hn hs))
    | minus hn hs => exact congrArg (Option.map _) ((offset?_iff hts).2 (.minus hn hs))

theorem Follows.exists_name (h : Follows name ts b) : ∃ r, name = 'n' :: r := by
  cases h <;> exact ⟨_, rfl⟩

/-- Nothing but the first token is left if all others are blank, and the last one is not. -/
theorem eq_nil_of_tight {t : Token} (h : Tight (t :: ts)) (hts : ts.filter (!·.isBlank) = []) :
    ts = [] := by
  by_contra hne
  obtain ⟨r, u, heq, hu⟩ := h.last
  have hlast : (t :: ts).getLast? = some u := by rw [heq, List.getLast?_concat]
  rw [List.getLast?_cons_of_ne_nil hne] at hlast
  have hblank := List.filter_eq_nil_iff.1 hts u (List.mem_of_getLast? hlast)
  simp [hu] at hblank

/-- What an identifier starts, and what follows it, is a formula if it is read as one. -/
theorem written_of_ofIdent? (ht : Tight (.ident s :: ts)) (hts : ∀ t ∈ ts, t.IsScaled)
    (h : ofIdent? (Text.lower s).toList (ts.filter (!·.isBlank)) = some f) :
    Written start (.ident s :: ts) f := by
  have hscaled : ∀ t ∈ ts.filter (!·.isBlank), t.IsScaled := fun t h =>
    hts t (List.mem_of_mem_filter h)
  have hword : ∀ word : String, ((Text.lower s).toList == word.toList) = true →
      Text.lower s = word := fun word h => String.toList_inj.1 (beq_iff_eq.1 h)
  unfold ofIdent? at h
  split at h
  · rename_i hodd
    split at h
    · rename_i hempty
      rw [eq_nil_of_tight ht (List.isEmpty_iff.1 hempty), ← Option.some.inj h]
      exact .odd (hword _ hodd)
    · cases h
  split at h
  · rename_i heven
    split at h
    · rename_i hempty
      rw [eq_nil_of_tight ht (List.isEmpty_iff.1 hempty), ← Option.some.inj h]
      exact .even (hword _ heven)
    · cases h
  split at h
  · rename_i name hname
    obtain ⟨b, hf, rfl⟩ := (ofName?_iff hscaled).1 h
    exact .formula (.minus hname) hf
  · obtain ⟨b, hf, rfl⟩ := (ofName?_iff hscaled).1 h
    exact .formula (.ident s) hf

theorem written_of_ofTokens? (ht : Tight ts) (hts : ∀ t ∈ ts, t.IsScaled)
    (h : ofTokens? ts = some f) : Written RoundsToInteger ts f := by
  obtain ⟨t, r, rfl, hblank⟩ := ht.head
  have hfilter : (t :: r).filter (!·.isBlank) = t :: r.filter (!·.isBlank) :=
    List.filter_cons_of_pos (by simp [hblank])
  obtain ⟨hscaled, hr⟩ := List.forall_mem_cons.1 hts
  have hrest : ∀ {us : List Token}, (∀ u ∈ us, u.IsScaled) →
      ∀ u ∈ us.filter (!·.isBlank), u.IsScaled := fun h u hu => h u (List.mem_of_mem_filter hu)
  unfold ofTokens? at h
  split at h
  · rename_i name us heq
    obtain ⟨rfl, rfl⟩ := List.cons.inj heq
    obtain ⟨b, hf, rfl⟩ := (ofName?_iff (hrest (List.forall_mem_cons.1 hr).2)).1 h
    exact .formula (.plus name) hf
  rw [hfilter] at h
  split at h
  · rename_i name us heq
    obtain ⟨rfl, rfl⟩ := List.cons.inj heq
    exact written_of_ofIdent? ht hr h
  · rename_i n unit us heq
    obtain ⟨rfl, rfl⟩ := List.cons.inj heq
    obtain ⟨a, ha, hname⟩ := Option.bind_eq_some_iff.1 h
    obtain ⟨b, hf, rfl⟩ := (ofName?_iff (hrest hr)).1 hname
    exact .formula (.dimension unit ((roundsToInteger_iff hscaled).2 ha)) hf
  · rename_i n heq
    obtain ⟨rfl, hnil⟩ := List.cons.inj heq
    split at h
    · rename_i hintegral
      obtain ⟨i, hi, rfl⟩ := Option.map_eq_some_iff.1 h
      rw [eq_nil_of_tight ht hnil]
      exact .whole ((isInteger_iff hscaled).2 ⟨hintegral, hi⟩)
    · cases h
  · cases h

theorem ofIdent?_of_follows (hname : (Text.lower s).toList = name)
    (h : Follows name (ts.filter (!·.isBlank)) b) :
    ofIdent? (Text.lower s).toList (ts.filter (!·.isBlank)) =
      ofName? 1 (Text.lower s).toList (ts.filter (!·.isBlank)) := by
  obtain ⟨r, rfl⟩ := h.exists_name
  rw [hname]
  rfl

theorem ofTokens?_of_written (hts : ∀ t ∈ ts, t.IsScaled) (h : Written RoundsToInteger ts f) :
    ofTokens? ts = some f := by
  cases h with
  | odd h => rw [ofTokens?_ident, h]; rfl
  | even h => rw [ofTokens?_ident, h]; rfl
  | whole h =>
    obtain ⟨hintegral, hi⟩ := (isInteger_iff (hts _ List.mem_cons_self)).1 h
    rw [ofTokens?_number, if_pos hintegral, hi]
    rfl
  | @formula ts us a b name hl hf =>
    have hus : ∀ u ∈ us.filter (!·.isBlank), u.IsScaled := fun u hu =>
      hts u (List.mem_append_right ts (List.mem_of_mem_filter hu))
    have hread := (ofName?_iff (a := a) hus).2 ⟨b, hf, rfl⟩
    cases hl with
    | dimension unit hn =>
      rw [List.singleton_append, ofTokens?_dimension,
        (roundsToInteger_iff (hts _ List.mem_cons_self)).1 hn]
      exact hread
    | ident s =>
      rw [List.singleton_append, ofTokens?_ident, ofIdent?_of_follows rfl hf]
      exact hread
    | plus s => exact hread
    | minus hname =>
      obtain ⟨r, rfl⟩ := hf.exists_name
      rw [List.singleton_append, ofTokens?_ident, hname]
      exact hread

/-- Which numerals may start a dimension matters for the dimension that starts the formula only. -/
theorem Written.imp {start' : Numeral → Int → Prop} (h : Written start ts f)
    (himp : ∀ n unit a, .dimension n unit ∈ ts → start n a → start' n a) : Written start' ts f := by
  cases h with
  | odd h => exact .odd h
  | even h => exact .even h
  | whole h => exact .whole h
  | formula hl hf =>
    refine .formula ?_ hf
    cases hl with
    | dimension unit h => exact .dimension unit (himp _ unit _ List.mem_cons_self h)
    | ident s => exact .ident s
    | plus s => exact .plus s
    | minus h => exact .minus h

theorem not_written_nil : ¬ Written start [] f := by
  intro h
  generalize hnil : ([] : List Token) = ts at h
  cases h with
  | formula hl _ => cases hl <;> cases hnil
  | _ => cases hnil

/-- A text is read as a formula exactly if its tokens are those of the formula, but that the number
that starts a dimension need not be written as a whole one. -/
theorem ofTokens?_tokenize_iff (text : String) (f : Nth) :
    (ofTokens? (trimBlanks (tokenize text)) = some f ↔
        Written RoundsToInteger (trimBlanks (tokenize text)) f) ∧
      ((∀ n unit, .dimension n unit ∈ trimBlanks (tokenize text) → n.integral = true) →
        (ofTokens? (trimBlanks (tokenize text)) = some f ↔
          Written IsInteger (trimBlanks (tokenize text)) f)) := by
  have hscaled : ∀ t ∈ trimBlanks (tokenize text), t.IsScaled := fun t ht =>
    isScaled_tokens _ t (mem_of_mem_trimBy ht)
  have hiff : ofTokens? (trimBlanks (tokenize text)) = some f ↔
      Written RoundsToInteger (trimBlanks (tokenize text)) f := by
    by_cases hnil : trimBlanks (tokenize text) = []
    · rw [hnil]
      exact ⟨(nomatch ·), fun h => absurd h not_written_nil⟩
    · exact ⟨written_of_ofTokens? (Tight.of_trimBlanks hnil).1 hscaled,
        ofTokens?_of_written hscaled⟩
  refine ⟨hiff, fun hintegral => hiff.trans ⟨fun h => ?_, fun h => ?_⟩⟩
  · refine h.imp fun n unit a hmem hn => hn.resolve_right fun hfraction => ?_
    rw [hintegral n unit hmem] at hfraction
    exact Bool.noConfusion hfraction.1
  · exact h.imp fun _ _ _ _ hn => .inl hn

/-- Signs, letters of both cases, and blanks where they may stand. -/
theorem ofTokens?_tokenize_iff_spaced :
    ofTokens? (trimBlanks (tokenize " -2N- 03 ")) = some ⟨-2, -3⟩ ∧
      Written IsInteger (trimBlanks (tokenize " -2N- 03 ")) ⟨-2, -3⟩ := by
  have hread : ofTokens? (trimBlanks (tokenize " -2N- 03 ")) = some ⟨-2, -3⟩ := by decide +kernel
  have htokens : trimBlanks (tokenize " -2N- 03 ") =
      [.dimension ⟨some .minus, true, 2, 0⟩ "N-", .blank, .number ⟨none, true, 3, 0⟩] := by
    decide +kernel
  refine ⟨hread, ((ofTokens?_tokenize_iff " -2N- 03 " ⟨-2, -3⟩).2 ?_).1 hread⟩
  rw [htokens]
  intro n unit h
  simp only [List.mem_cons, Token.dimension.injEq, reduceCtorEq, List.not_mem_nil, or_false] at h
  exact h.1 ▸ rfl

/-- A fraction without a value is no whole number as it is written, and yet it is read. -/
theorem not_ofTokens?_tokenize_iff :
    ¬ ∀ (text : String) (f : Nth), ofTokens? (trimBlanks (tokenize text)) = some f ↔
      Written IsInteger (trimBlanks (tokenize text)) f := by
  intro h
  let two : Numeral := ⟨none, false, 20, -1⟩
  let one : Numeral := ⟨some .plus, true, 1, 0⟩
  have htokens : trimBlanks (tokenize "2.0n+1") = [.dimension two "n", .number one] := by
    decide +kernel
  have hread : ofTokens? (trimBlanks (tokenize "2.0n+1")) = some ⟨2, 1⟩ := by decide +kernel
  have hwritten := (h "2.0n+1" ⟨2, 1⟩).1 hread
  rw [htokens] at hwritten
  generalize hts : [Token.dimension two "n", .number one] = ts at hwritten
  cases hwritten with
  | formula hl _ =>
    cases hl with
    | dimension _ hn =>
      obtain ⟨hfirst, -⟩ := List.cons.inj hts
      obtain ⟨rfl, -⟩ := Token.dimension.inj hfirst
      exact Bool.noConfusion hn.integral
  | _ => cases hts

end Nth
end WebStyle
