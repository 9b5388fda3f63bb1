import WebStyle.Proofs.Sequence
import WebStyle.Sheet.Rule
/-!
Where the rules of a sheet end, whatever is malformed in them. A run of tokens whose braces match,
and which ends with a closing one, is read the same whatever stands after it, and leaves no trace
in how that is read: see `RuleReader.readRules_append`.
-/
set_option autoImplicit false

namespace WebStyle

namespace RuleReader

/-! ### Matching braces -/

/-- The tokens close as many braces as are open before them, and all that they open: no start of
them closes more than is open there, and none is open at the end. -/
structure ClosesBraces (depth : Nat) (ts : List Token) : Prop where
  le : ∀ us, us <+: ts → us.count .closeBrace ≤ depth + us.count .openBrace
  eq : ts.count .closeBrace = depth + ts.count .openBrace

instance (depth : Nat) (ts : List Token) : Decidable (ClosesBraces depth ts) :=
  decidable_of_iff ((∀ us ∈ ts.inits, us.count .closeBrace ≤ depth + us.count .openBrace) ∧
      ts.count .closeBrace = depth + ts.count .openBrace)
    ⟨fun h => ⟨fun us hus => h.1 us ((List.mem_inits us ts).2 hus), h.2⟩,
      fun h => ⟨fun us hus => h.le us ((List.mem_inits us ts).1 hus), h.eq⟩⟩

namespace ClosesBraces

variable {depth : Nat} {t : Token} {ts : List Token}

theorem of_cons (h : ClosesBraces depth (t :: ts)) (ho : t ≠ .openBrace) (hc : t ≠ .closeBrace) :
    ClosesBraces depth ts where
  le us hus := by
    simpa [List.count_cons, ho, hc] using h.le (t :: us) (List.prefix_cons_inj t |>.2 hus)
  eq := by simpa [List.count_cons, ho, hc] using h.eq

theorem of_openBrace (h : ClosesBraces depth (.openBrace :: ts)) : ClosesBraces (depth + 1) ts where
  le us hus := by
    have := h.le (.openBrace :: us) (List.prefix_cons_inj _ |>.2 hus)
    simp at this
    omega
  eq := by
    have := h.eq
    simp at this
    omega

theorem not_closeBrace : ¬ ClosesBraces 0 (.closeBrace :: ts) := by
  intro h
  have := h.le [.closeBrace] (List.prefix_cons_inj _ |>.2 List.nil_prefix)
  simp at this

theorem of_closeBrace (h : ClosesBraces (depth + 1) (.closeBrace :: ts)) :
    ClosesBraces depth ts where
  le us hus := by
    have := h.le (.closeBrace :: us) (List.prefix_cons_inj _ |>.2 hus)
    simp at this
    omega
  eq := by
    have := h.eq
    simp at this
    omega

/-- A block that is open ends within the tokens, and what follows it has matching braces. -/
theorem exists_splitAtClose? (h : ClosesBraces (depth + 1) ts) :
    ∃ body rest, splitAtClose? (· == .openBrace) (· == .closeBrace) depth ts = some (body, rest) ∧
      ClosesBraces 0 rest := by
  induction ts generalizing depth with
  | nil => simpa using h.eq
  | cons t ts ih =>
    by_cases hc : t = .closeBrace
    · subst hc
      cases depth with
      | zero => exact ⟨[], ts, by simp [splitAtClose?], h.of_closeBrace⟩
      | succ depth =>
        obtain ⟨body, rest, hsplit, hrest⟩ := ih h.of_closeBrace
        exact ⟨.closeBrace :: body, rest, by simp [splitAtClose?, hsplit], hrest⟩
    · by_cases ho : t = .openBrace
      · subst ho
        obtain ⟨body, rest, hsplit, hrest⟩ := ih h.of_openBrace
        exact ⟨.openBrace :: body, rest, by simp [splitAtClose?, hsplit], hrest⟩
      · obtain ⟨body, rest, hsplit, hrest⟩ := ih (h.of_cons ho hc)
        exact ⟨t :: body, rest, by simp [splitAtClose?, ho, hc, hsplit], hrest⟩

end ClosesBraces

/-- Tokens that end where a block ends, if there are any. -/
def EndsClosed (ts : List Token) : Prop := ∀ t ∈ ts.getLast?, t = .closeBrace

theorem EndsClosed.of_suffix {ts us : List Token} (h : EndsClosed ts) (hus : us <:+ ts) :
    EndsClosed us := by
  obtain ⟨vs, rfl⟩ := hus
  intro t ht
  refine h t ?_
  rw [List.getLast?_append, Option.mem_def.1 ht]
  rfl

theorem getLast?_of_cons {t : Token} {r : List Token}
    (h : (t :: r).getLast? = some .closeBrace) (ht : t ≠ .closeBrace) :
    r.getLast? = some .closeBrace := by
  cases r with
  | nil => exact absurd (Option.some.inj h) ht
  | cons u r => exact h

/-! ### How far a rule reaches -/

/-- What stands after the tokens follows the rule as well. -/
def Extent.append (more : List Token) : Extent → Extent
  | .block prelude body rest => .block prelude body (rest ++ more)
  | .statement prelude rest => .statement prelude (rest ++ more)
  | e => e

/-- The rule ends before the tokens do. -/
def Extent.Ends : Extent → Prop
  | .block _ _ _ | .statement _ _ => True
  | .unclosed _ | .unended _ => False

variable {e : Extent} {more : List Token}

theorem Extent.append_cons (t : Token) : (e.cons t).append more = (e.append more).cons t := by
  cases e <;> rfl

theorem Extent.ends_cons (t : Token) (h : e.Ends) : (e.cons t).Ends := by
  cases e <;> exact h

theorem Extent.body_append : (e.append more).body = e.body := by
  cases e <;> rfl

theorem Extent.rest_append (h : e.Ends) : (e.append more).rest = e.rest ++ more := by
  cases e with
  | block | statement => rfl
  | unclosed | unended => exact h.elim

theorem extent_prelude_length_le (depth : Nat) (ts : List Token) :
    (extent depth ts).prelude.length ≤ ts.length := by
  fun_induction extent depth ts with
  | case1 => simp [Extent.prelude]
  | case2 => simp [Extent.prelude]
  | case3 => simp [Extent.prelude]
  | case4 => simp [Extent.prelude]
  | case5 depth t r _ _ depth' ih =>
    have hcons : ∀ e : Extent, (e.cons t).prelude = t :: e.prelude := by rintro ⟨⟩ <;> rfl
    simpa [hcons] using ih

theorem extent_rest_suffix (depth : Nat) (ts : List Token) : (extent depth ts).rest <:+ ts := by
  fun_induction extent depth ts with
  | case1 => exact List.suffix_rfl
  | case2 depth t r _ body rest h => exact (splitAtClose?_suffix h).trans (List.suffix_cons t r)
  | case3 => exact List.nil_suffix
  | case4 depth t r => exact List.suffix_cons t r
  | case5 depth t r _ _ depth' ih =>
    rw [Extent.rest_cons]
    exact ih.trans (List.suffix_cons t r)

/-- In tokens with matching braces that end with a block, a rule ends within the tokens, and what
follows it there has matching braces as well. -/
theorem extent_append (depth : Nat) {ts : List Token} (h : ClosesBraces 0 ts)
    (hlast : ts.getLast? = some .closeBrace) (more : List Token) :
    extent depth (ts ++ more) = (extent depth ts).append more ∧ (extent depth ts).Ends ∧
      ClosesBraces 0 (extent depth ts).rest := by
  induction ts generalizing depth with
  | nil => simp at hlast
  | cons t r ih =>
    by_cases ho : t = .openBrace
    · subst ho
      obtain ⟨body, rest, hsplit, hrest⟩ := h.of_openBrace.exists_splitAtClose?
      simp [extent, hsplit, splitAtClose?_append hsplit, Extent.append, Extent.Ends, Extent.rest,
        hrest]
    · by_cases hc : t = .closeBrace
      · exact (ClosesBraces.not_closeBrace (hc ▸ h)).elim
      · have hr := h.of_cons ho hc
        by_cases hend : t = .semicolon ∧ depth = 0
        · simp [extent, hend, Extent.append, Extent.Ends, Extent.rest, hr]
        · have hstep : ∀ l : List Token, extent depth (t :: l) = (extent
              (if t.opensGroup then depth + 1 else if t.closesGroup then depth - 1 else depth)
              l).cons t := by
            intro l
            simpa [extent, ho, hc] using fun h1 h2 => absurd ⟨h1, h2⟩ hend
          obtain ⟨happend, hends, hrest⟩ := ih
            (if t.opensGroup then depth + 1 else if t.closesGroup then depth - 1 else depth)
            hr (getLast?_of_cons hlast hc)
          rw [List.cons_append, hstep, hstep, happend, Extent.append_cons, Extent.rest_cons]
          exact ⟨rfl, Extent.ends_cons t hends, hrest⟩

/-! ### What is read -/

theorem styleRule_append {ts : List Token} (h : e.Ends) :
    styleRule (ts ++ more) (e.append more) = styleRule ts e := by
  cases e with
  | block | statement => rfl
  | unclosed | unended => exact h.elim

theorem atRule_append {ts : List Token} (h : e.Ends) (hlen : e.prelude.length < ts.length)
    (name : String) (allowed : Bool) (inner : List RuleSource × List Dropped) :
    atRule name allowed (ts ++ more) inner (e.append more) = atRule name allowed ts inner e := by
  have htake : (ts ++ more).take (e.prelude.length + 1) = ts.take (e.prelude.length + 1) :=
    List.take_append_of_le_length hlen
  unfold atRule
  cases e with
  | block prelude | statement prelude =>
    simp only [Extent.prelude] at htake
    simp only [Extent.append, importRule, blockRule, htake]
  | unclosed | unended => exact h.elim

theorem atRule_importsAllowed {name : String} (h : name ≠ "import") (a b : Bool)
    (ts : List Token) (inner : List RuleSource × List Dropped) :
    atRule name a ts inner e = atRule name b ts inner e := by
  unfold atRule
  split <;> first | rfl | exact absurd rfl h

variable {topLevel importsAllowed : Bool} {t : Token} {r : List Token}

/-- What came of one construct stands before what came of the rest. -/
def Reading.before (reading : Reading) (after : List RuleSource × List Dropped) :
    List RuleSource × List Dropped :=
  (reading.rule.toList ++ after.1, reading.dropped ++ after.2)

theorem readRules_skip (h : t.isBlank || (topLevel && (t == .markupOpen || t == .markupClose))) :
    readRules topLevel importsAllowed (t :: r) = readRules topLevel importsAllowed r := by
  rw [readRules, if_pos h]
  rintro name rfl
  simp [Token.isBlank] at h

theorem readRules_stray (h : t = .closeBrace ∨ t = .semicolon) :
    readRules topLevel importsAllowed (t :: r) =
      (Reading.none .unexpectedToken [t]).before (readRules topLevel importsAllowed r) := by
  rcases h with rfl | rfl <;> simp [readRules, Token.isBlank, Reading.before, Reading.none]

theorem readRules_atKeyword (name : String) :
    readRules topLevel importsAllowed (.atKeyword name :: r) =
      (atRule (Text.lower name) importsAllowed (.atKeyword name :: r)
        (if Text.lower name == "media" then readRules false false (extent 0 r).body else ([], []))
        (extent 0 r)).before
      (readRules topLevel (importsAllowed && keepsImports (Text.lower name))
        (extent 0 r).rest) := by
  rw [readRules]
  simp [Token.isBlank, Reading.before]

theorem readRules_style
    (hskip : ¬ (t.isBlank || (topLevel && (t == .markupOpen || t == .markupClose))))
    (hstray : ¬ (t = .closeBrace ∨ t = .semicolon)) (hat : ¬ ∃ name, t = .atKeyword name) :
    readRules topLevel importsAllowed (t :: r) =
      (styleRule (t :: r) (extent 0 (t :: r))).before
        (readRules topLevel
          (importsAllowed && (styleRule (t :: r) (extent 0 (t :: r))).rule.isNone)
          (extent 0 (t :: r)).rest) := by
  rw [readRules, if_neg hskip, if_neg (by simpa using hstray)]
  · rfl
  · exact fun name hname => hat ⟨name, hname⟩

/-- Where imports are allowed makes no difference to tokens without any. -/
theorem readRules_eq_of_no_import {ts : List Token}
    (h : ∀ name, .atKeyword name ∈ ts → Text.lower name ≠ "import") (a b : Bool) :
    readRules topLevel a ts = readRules topLevel b ts := by
  induction hn : ts.length using Nat.strong_induction_on generalizing ts a b with
  | _ n ih =>
    subst hn
    cases ts with
    | nil => rw [readRules, readRules]
    | cons t r =>
      have hrest : ∀ us : List Token, us <:+ t :: r → us.length < (t :: r).length → ∀ a b,
          readRules topLevel a us = readRules topLevel b us := fun us hus hlt a b =>
        ih us.length hlt (fun name hname => h name (hus.subset hname)) a b rfl
      have hr := hrest r (List.suffix_cons t r) (Nat.lt_succ_self r.length)
      by_cases hskip : t.isBlank || (topLevel && (t == .markupOpen || t == .markupClose))
      · rw [readRules_skip hskip, readRules_skip hskip, hr a b]
      · by_cases hstray : t = .closeBrace ∨ t = .semicolon
        · rw [readRules_stray hstray, readRules_stray hstray, hr a b]
        · by_cases hat : ∃ name, t = .atKeyword name
          · obtain ⟨name, rfl⟩ := hat
            have hlt := extent_length_le 0 r
            rw [readRules_atKeyword, readRules_atKeyword,
              atRule_importsAllowed (h name List.mem_cons_self) a b,
              hrest (extent 0 r).rest ((extent_rest_suffix 0 r).trans (List.suffix_cons _ r))
                (by simp only [List.length_cons]; omega)]
          · rw [readRules_style hskip hstray hat, readRules_style hskip hstray hat,
              hrest _ (extent_rest_suffix 0 _) (extent_rest_length_lt t r)]

/-- A construct that starts in tokens with matching braces, which end with a block, ends in them,
and it is read the same whatever follows them. -/
theorem exists_readRules_append (topLevel importsAllowed : Bool) {ts : List Token} (hne : ts ≠ [])
    (hbraces : ClosesBraces 0 ts) (hclosed : EndsClosed ts) :
    ∃ (reading : Reading) (allowed : Bool) (rest : List Token),
      rest.length < ts.length ∧ ClosesBraces 0 rest ∧ EndsClosed rest ∧
      ∀ more, readRules topLevel importsAllowed (ts ++ more) =
        reading.before (readRules topLevel allowed (rest ++ more)) := by
  cases ts with
  | nil => exact absurd rfl hne
  | cons t r =>
    have hclose : t ≠ .closeBrace := by
      rintro rfl
      exact ClosesBraces.not_closeBrace hbraces
    have hlast : (t :: r).getLast? = some .closeBrace := by
      rw [List.getLast?_eq_some_getLast hne]
      exact congrArg some (hclosed _ (List.getLast?_eq_some_getLast hne))
    have hr : r.getLast? = some .closeBrace := getLast?_of_cons hlast hclose
    have hrClosed : EndsClosed r := hclosed.of_suffix (List.suffix_cons t r)
    by_cases hskip : t.isBlank || (topLevel && (t == .markupOpen || t == .markupClose))
    · have ho : t ≠ .openBrace := by
        rintro rfl
        simp [Token.isBlank] at hskip
      exact ⟨⟨none, []⟩, importsAllowed, r, Nat.lt_succ_self _, hbraces.of_cons ho hclose, hrClosed,
        fun more => readRules_skip hskip⟩
    · by_cases hstray : t = .closeBrace ∨ t = .semicolon
      · have ho : t ≠ .openBrace := by
          rintro rfl
          simp at hstray
        exact ⟨.none .unexpectedToken [t], importsAllowed, r, Nat.lt_succ_self _,
          hbraces.of_cons ho hclose, hrClosed, fun more => readRules_stray hstray⟩
      · by_cases hat : ∃ name, t = .atKeyword name
        · obtain ⟨name, rfl⟩ := hat
          have hends := extent_append 0 (hbraces.of_cons (by simp) hclose) hr
          have hlt := extent_length_le 0 r
          have hlen : (extent 0 r).prelude.length < (Token.atKeyword name :: r).length :=
            Nat.lt_succ_of_le (extent_prelude_length_le 0 r)
          refine ⟨atRule (Text.lower name) importsAllowed (.atKeyword name :: r)
              (if Text.lower name == "media" then readRules false false (extent 0 r).body
                else ([], []))
              (extent 0 r), importsAllowed && keepsImports (Text.lower name), (extent 0 r).rest,
            by simp only [List.length_cons]; omega, (hends []).2.2,
            hrClosed.of_suffix (extent_rest_suffix 0 r), fun more => ?_⟩
          rw [List.cons_append, readRules_atKeyword, (hends more).1, Extent.body_append,
            Extent.rest_append (hends more).2.1, ← List.cons_append,
            atRule_append (hends more).2.1 hlen]
        · have hends := extent_append 0 hbraces hlast
          refine ⟨styleRule (t :: r) (extent 0 (t :: r)),
            importsAllowed && (styleRule (t :: r) (extent 0 (t :: r))).rule.isNone,
            (extent 0 (t :: r)).rest, extent_rest_length_lt t r, (hends []).2.2,
            hclosed.of_suffix (extent_rest_suffix 0 (t :: r)), fun more => ?_⟩
          have happend := (hends more).1
          rw [List.cons_append] at happend ⊢
          rw [readRules_style hskip hstray hat, happend, ← List.cons_append,
            styleRule_append (hends more).2.1, Extent.rest_append (hends more).2.1]

/-- Rules are isolated from each other: tokens whose braces match, the last of which closes a block,
give the rules and the errors they give alone, and those after them give theirs, whatever is
malformed on either side. -/
theorem readRules_append {ts us : List Token} (hbraces : ClosesBraces 0 ts)
    (hlast : ts.getLast? = some .closeBrace)
    (hus : ∀ name, .atKeyword name ∈ us → Text.lower name ≠ "import") (topLevel : Bool) :
    readRules topLevel topLevel (ts ++ us) =
      ((readRules topLevel topLevel ts).1 ++ (readRules topLevel topLevel us).1,
        (readRules topLevel topLevel ts).2 ++ (readRules topLevel topLevel us).2) := by
  -- What is read of the start settles whether imports are allowed after it.
  suffices hsteps : ∀ allowed, readRules topLevel allowed (ts ++ us) =
      ((readRules topLevel allowed ts).1 ++ (readRules topLevel topLevel us).1,
        (readRules topLevel allowed ts).2 ++ (readRules topLevel topLevel us).2) from
    hsteps topLevel
  have hclosed : EndsClosed ts := fun t ht => Option.some.inj (ht.symm.trans hlast)
  clear hlast
  induction hn : ts.length using Nat.strong_induction_on generalizing ts with
  | _ n ih =>
    subst hn
    intro allowed
    by_cases hne : ts = []
    · subst hne
      rw [List.nil_append, readRules_eq_of_no_import hus allowed topLevel,
        readRules.eq_def topLevel allowed []]
      simp
    · obtain ⟨reading, allowed', rest, hlt, hrest, hrestClosed, hread⟩ :=
        exists_readRules_append topLevel allowed hne hbraces hclosed
      have halone := hread []
      rw [List.append_nil, List.append_nil] at halone
      rw [hread us, halone, ih rest.length hlt hrest hrestClosed rfl]
      simp [Reading.before]

/-- A selector whose bracket never closes, a rule that ends early, and one with a bad string. -/
def damaged : List Token :=
  [.ident "a", .openSquare, .openBrace, .closeBrace, .atKeyword "media", .closeParen, .semicolon,
    .badString, .openBrace, .ident "x", .closeBrace]

theorem readRules_append_damaged :
    ClosesBraces 0 damaged ∧ damaged.getLast? = some .closeBrace ∧
    readRules true true (damaged ++ [.ident "p", .openBrace, .closeBrace]) =
      ((readRules true true damaged).1 ++
          (readRules true true [.ident "p", .openBrace, .closeBrace]).1,
        (readRules true true damaged).2 ++
          (readRules true true [.ident "p", .openBrace, .closeBrace]).2) := by
  have hbraces : ClosesBraces 0 damaged := by decide
  have hlast : damaged.getLast? = some .closeBrace := rfl
  exact ⟨hbraces, hlast, readRules_append hbraces hlast (by simp) true⟩

end RuleReader

end WebStyle
