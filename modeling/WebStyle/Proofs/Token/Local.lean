import WebStyle.Proofs.Token.Proper
/-!
Reading is local: unless a string, an address, a comment or an escape swallows it, a semicolon ends
what stands before it, and what follows makes no difference there.
-/
set_option autoImplicit false

namespace WebStyle

open Lexer

variable {α β : Type} {c : Char} {cs r : List Char}

/-- Whether a reader deals with the semicolon after a text in one of two ways: with nothing behind
it, it takes all there is, or it stops at some place in the text, whatever is behind it. -/
def LocalAt (f : List Char → α × List Char) (cs : List Char) : Prop :=
  (f (cs ++ [';'])).2 = [] ∨ ∃ x u, u <:+ cs ∧ ∀ r, f (cs ++ ';' :: r) = (x, u ++ ';' :: r)

namespace LocalAt

theorem stop {f : List Char → α × List Char} {x : α} {u : List Char} (hu : u <:+ cs)
    (h : ∀ r, f (cs ++ ';' :: r) = (x, u ++ ';' :: r)) : LocalAt f cs := .inr ⟨x, u, hu, h⟩

/-- What a reader makes of what it reads does not matter. -/
theorem map {f : List Char → α × List Char} (h : LocalAt f cs) (g : α → β) :
    LocalAt (fun l => (g (f l).1, (f l).2)) cs := by
  rcases h with h | ⟨x, u, hu, h⟩
  · exact .inl h
  · exact .inr ⟨g x, u, hu, fun r => by simp only [h]⟩

/-- A reader that goes on where another has stopped. -/
theorem bind {f : List Char → α × List Char} {g : α → List Char → β × List Char}
    (hf : LocalAt f cs) (hg : ∀ x u, u <:+ cs → LocalAt (g x) u) (hnil : ∀ x, (g x []).2 = []) :
    LocalAt (fun l => g (f l).1 (f l).2) cs := by
  rcases hf with hf | ⟨x, u, hu, hf⟩
  · refine .inl ?_
    simp only [hf, hnil]
  · rcases hg x u hu with hg | ⟨y, v, hv, hg⟩
    · refine .inl ?_
      simp only [hf, hg]
    · exact .inr ⟨y, v, hv.trans hu, fun r => by simp only [hf, hg]⟩

/-- A reader that reads what is left of the text as another does. -/
theorem via {f g : List Char → α × List Char} {u : List Char} (h : LocalAt f u) (hu : u <:+ cs)
    (heq : ∀ r, g (cs ++ ';' :: r) = f (u ++ ';' :: r)) : LocalAt g cs := by
  rcases h with h | ⟨x, v, hv, h⟩
  · exact .inl (by rw [heq, h])
  · exact .inr ⟨x, v, hv.trans hu, fun r => by rw [heq, h]⟩

theorem cons {f g : List Char → α × List Char} (h : LocalAt f cs)
    (heq : ∀ r, g (c :: cs ++ ';' :: r) = f (cs ++ ';' :: r)) : LocalAt g (c :: cs) :=
  h.via (List.suffix_cons c cs) heq

/-- A reader that chooses by what the text after the semicolon has no part in. -/
theorem ite {f g : List Char → α × List Char} {p : List Char → Bool}
    (hp : ∀ r, p (cs ++ ';' :: r) = p (cs ++ [';'])) (hf : p (cs ++ [';']) → LocalAt f cs)
    (hg : p (cs ++ [';']) = false → LocalAt g cs) :
    LocalAt (fun l => if p l then f l else g l) cs := by
  cases h : p (cs ++ [';']) with
  | true => exact (hf h).via List.suffix_rfl fun r => by rw [hp, h, if_pos rfl]
  | false =>
    exact (hg h).via List.suffix_rfl fun r => by rw [hp, h, if_neg Bool.false_ne_true]

end LocalAt

/-! ### Escapes and names -/

theorem takeWhile_take_append {p : Char → Bool} {q : Char} (hp : p q = false) (n : Nat)
    (cs r : List Char) : ((cs ++ q :: r).take n).takeWhile p = (cs.take n).takeWhile p := by
  induction cs generalizing n with
  | nil => cases n <;> simp [hp]
  | cons c cs ih => cases n <;> simp [List.takeWhile_cons, ih]

theorem skipOneBlank_append (cs r : List Char) :
    skipOneBlank (cs ++ ';' :: r) = skipOneBlank cs ++ ';' :: r := by
  cases cs with
  | nil => rfl
  | cons c cs =>
    simp only [List.cons_append, skipOneBlank]
    split <;> rfl

theorem skipOneBlank_suffix (cs : List Char) : skipOneBlank cs <:+ cs := by
  cases cs with
  | nil => exact List.suffix_rfl
  | cons c cs =>
    simp only [skipOneBlank]
    split
    · exact List.suffix_cons c cs
    · exact List.suffix_rfl

theorem localAt_readEscape (cs : List Char) : LocalAt readEscape cs := by
  cases cs with
  | nil => exact .inl rfl
  | cons c cs =>
    cases hc : Text.isHexDigit c with
    | false =>
      have hread : ∀ r, readEscape (c :: cs ++ ';' :: r) = (c, cs ++ ';' :: r) := fun r => by
        simp [readEscape, hc]
      exact .stop (List.suffix_cons c cs) hread
    | true =>
      have hsemicolon : Text.isHexDigit ';' = false := by decide
      have hle : ((cs.take 5).takeWhile Text.isHexDigit).length ≤ cs.length :=
        Nat.le_trans (List.takeWhile_prefix _).length_le (List.length_take_le' 5 cs)
      have hsuffix := (skipOneBlank_suffix _).trans
        (List.drop_suffix ((cs.take 5).takeWhile Text.isHexDigit).length cs)
      refine .stop (hsuffix.trans (List.suffix_cons c cs))
        (x := (readEscape (c :: cs)).1) fun r => ?_
      simp only [List.cons_append, readEscape, hc, ↓reduceIte, takeWhile_take_append hsemicolon,
        List.drop_append_of_le_length hle, skipOneBlank_append]

/-- Characters that are part of no name, number or mark, and that no line ends with. -/
def IsDivider (c : Char) : Prop := c ∈ [' ', ',', ';', '(', ')']

instance : DecidablePred IsDivider := fun _ => inferInstanceAs (Decidable (_ ∈ _))

theorem isDivider_semicolon : IsDivider ';' := by decide

theorem IsDivider.facts {q : Char} (h : IsDivider q) :
    isNameChar q = false ∧ isNameStart q = false ∧
      q ∉ ['\\', '\n', '-', '!', '>', '*', '%'] := by
  simp only [IsDivider, List.mem_cons, List.not_mem_nil, or_false] at h
  rcases h with rfl | rfl | rfl | rfl | rfl <;> decide

theorem startsEscape_append {a b : Char} (ha : IsDivider a) (hb : IsDivider b)
    (cs r s : List Char) : startsEscape (cs ++ a :: r) = startsEscape (cs ++ b :: s) := by
  have ha := ha.facts.2.2
  have hb := hb.facts.2.2
  simp only [List.mem_cons, List.not_mem_nil, or_false, not_or] at ha hb
  match cs with
  | [] => simp [startsEscape, ha, hb]
  | [c] =>
    by_cases hc : c = '\\'
    · simp only [List.singleton_append, startsEscape, hc, bne_iff_ne.2 ha.2.1, bne_iff_ne.2 hb.2.1]
    · simp [startsEscape, hc]
  | c :: d :: cs =>
    by_cases hc : c = '\\'
    · simp [startsEscape, hc]
    · simp [startsEscape, hc]

/-- Induction on how long a text is, for readers that may pass over more than one character. -/
theorem length_induction {motive : List Char → Prop}
    (h : ∀ cs, (∀ u : List Char, u.length < cs.length → motive u) → motive cs) (cs : List Char) :
    motive cs := by
  induction hn : cs.length using Nat.strongRecOn generalizing cs with
  | _ n ih => exact h cs fun u hu => ih u.length (hn ▸ hu) u rfl

theorem lt_of_suffix {u : List Char} (h : u <:+ cs) : u.length < (c :: cs).length :=
  Nat.lt_succ_of_le h.length_le

theorem localAt_readName (cs : List Char) : LocalAt readName cs := by
  induction cs using length_induction with
  | h cs ih =>
    cases cs with
    | nil =>
      have hread : ∀ r, readName (';' :: r) = ([], ';' :: r) := fun r => EndsName.readName (by
        rintro c ⟨⟩
        decide)
      exact .stop List.suffix_rfl hread
    | cons c cs =>
      cases hc : isNameChar c with
      | true =>
        exact ((ih cs (lt_of_suffix List.suffix_rfl)).map (c :: ·)).cons fun r => readName_cons hc
      | false =>
        have hstarts := fun r =>
          startsEscape_append isDivider_semicolon isDivider_semicolon (c :: cs) r []
        cases hescape : startsEscape (c :: cs ++ [';']) with
        | true =>
          refine ((localAt_readEscape cs).bind
            (fun x u hu => (ih u (lt_of_suffix hu)).map (x :: ·)) fun x => ?_).cons fun r => ?_
          · rw [readName]
          · have hr := (hstarts r).trans hescape
            rw [List.cons_append] at hr ⊢
            rw [readName]
            simp [hc, hr]
        | false =>
          refine .stop List.suffix_rfl (x := []) fun r => ?_
          have hr := (hstarts r).trans hescape
          rw [List.cons_append] at hr ⊢
          rw [readName]
          simp [hc, hr]

/-! ### Strings and addresses -/

theorem localAt_readString {q : Char} (hq : q ≠ ';') (cs : List Char) :
    LocalAt (readString q) cs := by
  induction cs using length_induction with
  | h cs ih =>
    cases cs with
    | nil =>
      refine .inl ?_
      have hnil : readString q [] = (some [], []) := by rw [Lexer.readString]
      rw [List.nil_append, Lexer.readString.eq_def]
      simp [Ne.symm hq, hnil]
    | cons c cs =>
      cases hquote : (c == q) with
      | true =>
        refine .stop (List.suffix_cons c cs) (x := some []) fun r => ?_
        rw [List.cons_append, Lexer.readString.eq_def]
        simp [hquote]
      | false =>
        cases hline : (c == '\n') with
        | true =>
          refine .stop List.suffix_rfl (x := none) fun r => ?_
          rw [List.cons_append, Lexer.readString.eq_def]
          simp [hquote, hline]
        | false =>
          cases hslash : (c == '\\') with
          | false =>
            refine ((ih cs (lt_of_suffix List.suffix_rfl)).map (·.map (c :: ·))).cons fun r => ?_
            rw [List.cons_append, Lexer.readString.eq_def]
            simp [hquote, hline, hslash]
          | true =>
            obtain rfl := beq_iff_eq.1 hslash
            have hnil : ∀ q, readString q [] = (some [], []) := fun q => by rw [Lexer.readString]
            cases cs with
            | nil =>
              refine .inl ?_
              have hescape : readEscape [';'] = (';', []) := by decide
              rw [List.cons_append, List.nil_append, Lexer.readString.eq_def]
              simp [hquote, hescape, hnil]
            | cons d cs =>
              by_cases hd : d = '\n'
              · subst hd
                have hlt : cs.length < ('\\' :: '\n' :: cs).length :=
                  Nat.lt_trans (lt_of_suffix List.suffix_rfl) (lt_of_suffix List.suffix_rfl)
                refine (ih cs hlt).via (List.suffix_append ['\\', '\n'] cs) fun r => ?_
                rw [List.cons_append, List.cons_append, Lexer.readString.eq_def]
                simp [hquote]
              · refine ((localAt_readEscape (d :: cs)).bind
                  (fun x u hu => (ih u (lt_of_suffix hu)).map (·.map (x :: ·)))
                  fun x => by rw [hnil]).cons fun r => ?_
                rw [List.cons_append, List.cons_append, Lexer.readString.eq_def]
                simp [hquote]

theorem localAt_skipBadUrl (cs : List Char) : LocalAt (fun l => ((), skipBadUrl l)) cs := by
  induction cs using length_induction with
  | h cs ih =>
    cases cs with
    | nil => exact .inl rfl
    | cons c cs =>
      by_cases hclose : c = ')'
      · subst hclose
        exact .stop (List.suffix_cons _ cs) (x := ()) fun r => rfl
      · by_cases hslash : c = '\\'
        · subst hslash
          cases cs with
          | nil => exact .inl rfl
          | cons d cs =>
            have hlt : cs.length < ('\\' :: d :: cs).length :=
              Nat.lt_trans (lt_of_suffix List.suffix_rfl) (lt_of_suffix List.suffix_rfl)
            exact (ih cs hlt).via (List.suffix_append ['\\', d] cs) fun r => rfl
        · refine (ih cs (lt_of_suffix List.suffix_rfl)).cons fun r => ?_
          rw [List.cons_append, skipBadUrl] <;> simp_all

theorem dropWhile_append {p : Char → Bool} {q : Char} (hp : p q = false) (cs r : List Char) :
    (cs ++ q :: r).dropWhile p = cs.dropWhile p ++ q :: r := by
  induction cs with
  | nil => simp [hp]
  | cons c cs ih =>
    simp only [List.cons_append, List.dropWhile_cons, ih]
    split <;> rfl

theorem dropBlanks_append (cs r : List Char) :
    (cs ++ ';' :: r).dropWhile Text.isAsciiBlank =
      cs.dropWhile Text.isAsciiBlank ++ ';' :: r :=
  dropWhile_append (by decide) cs r

theorem localAt_badUrl (cs : List Char) :
    LocalAt (fun l => ((none : Option (List Char)), skipBadUrl l)) cs :=
  (localAt_skipBadUrl cs).map fun _ => none

theorem localAt_endUrl (address cs : List Char) : LocalAt (endUrl address) cs := by
  have hdrop := dropBlanks_append cs
  have hsuffix := List.dropWhile_suffix (l := cs) Text.isAsciiBlank
  by_cases hclose : ∃ u, cs.dropWhile Text.isAsciiBlank = ')' :: u
  · obtain ⟨u, hu⟩ := hclose
    rw [hu] at hdrop hsuffix
    refine .stop ((List.suffix_cons _ u).trans hsuffix) (x := some address) fun r => ?_
    rw [endUrl, hdrop]
    rfl
  · refine (localAt_badUrl _).via hsuffix fun r => ?_
    rw [endUrl, hdrop]
    cases hrest : cs.dropWhile Text.isAsciiBlank with
    | nil => rfl
    | cons c u =>
      have hc : c ≠ ')' := by
        rintro rfl
        exact hclose ⟨u, hrest⟩
      simp [hc]

theorem localAt_readBareUrl (cs : List Char) : LocalAt readBareUrl cs := by
  induction cs using length_induction with
  | h cs ih =>
    have hnil : readBareUrl [] = (some [], []) := by rw [readBareUrl]
    cases cs with
    | nil =>
      refine .inl ?_
      rw [List.nil_append, readBareUrl]
      simp [hnil, Text.isAsciiBlank]
    | cons c cs =>
      have hread : ∀ r, readBareUrl (c :: cs ++ ';' :: r) = _ := fun r => by
        rw [List.cons_append, readBareUrl]
      by_cases hclose : c == ')'
      · refine .stop (List.suffix_cons c cs) (x := some []) fun r => ?_
        rw [hread, if_pos hclose]
      by_cases hblank : Text.isAsciiBlank c
      · refine (localAt_endUrl [] cs).cons fun r => ?_
        rw [hread, if_neg hclose, if_pos hblank]
      by_cases hbad : c == '"' || c == '\'' || c == '('
      · refine (localAt_badUrl (c :: cs)).via List.suffix_rfl fun r => ?_
        rw [hread, if_neg hclose, if_neg hblank, if_pos hbad]
        rfl
      by_cases hslash : c == '\\'
      · have hstarts := fun r =>
          startsEscape_append isDivider_semicolon isDivider_semicolon (c :: cs) r []
        cases hescape : startsEscape (c :: cs ++ [';']) with
        | true =>
          refine ((localAt_readEscape cs).bind
            (fun x u hu => (ih u (lt_of_suffix hu)).map (·.map (x :: ·)))
            fun x => by rw [hnil]).cons fun r => ?_
          have hr := (hstarts r).trans hescape
          rw [hread, if_neg hclose, if_neg hblank, if_neg hbad, if_pos hslash]
          rw [List.cons_append] at hr
          simp [hr]
        | false =>
          refine (localAt_badUrl (c :: cs)).via List.suffix_rfl fun r => ?_
          have hr := (hstarts r).trans hescape
          rw [hread, if_neg hclose, if_neg hblank, if_neg hbad, if_pos hslash]
          rw [List.cons_append] at hr
          simp [hr]
      · refine ((ih cs (lt_of_suffix List.suffix_rfl)).map (·.map (c :: ·))).cons fun r => ?_
        rw [hread, if_neg hclose, if_neg hblank, if_neg hbad, if_neg hslash]

/-- What is read after the string of a quoted address. -/
def endQuotedUrl : Option (List Char) → List Char → Option (List Char) × List Char
  | some address, l => endUrl address l
  | none, l => (none, skipBadUrl l)

theorem localAt_readUrl (cs : List Char) : LocalAt readUrl cs := by
  have hdrop := dropBlanks_append cs
  have hsuffix := List.dropWhile_suffix (l := cs) Text.isAsciiBlank
  cases hrest : cs.dropWhile Text.isAsciiBlank with
  | nil =>
    refine (localAt_readBareUrl []).via (List.nil_suffix) fun r => ?_
    rw [readUrl, hdrop, hrest]
    rfl
  | cons c u =>
    rw [hrest] at hdrop hsuffix
    cases hquote : (c == '"' || c == '\'') with
    | true =>
      have hq : c ≠ ';' := by
        rintro rfl
        simp at hquote
      have hend : ∀ x v, LocalAt (endQuotedUrl x) v := by
        intro x v
        cases x with
        | none => exact localAt_badUrl v
        | some address => exact localAt_endUrl address v
      refine ((localAt_readString hq u).bind (fun x v _ => hend x v) fun x => ?_).via
        ((List.suffix_cons c u).trans hsuffix) fun r => ?_
      · cases x <;> rfl
      · rw [readUrl, hdrop]
        simp only [List.cons_append, hquote, ↓reduceIte]
        split
        · rename_i heq
          simp only [heq, endQuotedUrl]
        · rename_i heq
          simp only [heq, endQuotedUrl]
    | false =>
      refine (localAt_readBareUrl (c :: u)).via hsuffix fun r => ?_
      rw [readUrl, hdrop]
      simp [hquote]

/-! ### Numbers -/

namespace Numeral

/-- Characters that no number holds. -/
def stops (q : Char) : Bool :=
  !q.isDigit && q != '+' && q != '-' && q != '.' && q != 'e' && q != 'E'

section

variable {q : Char} (hq : stops q)
include hq

theorem readSign_append (cs r : List Char) :
    readSign (cs ++ q :: r) = ((readSign cs).1, (readSign cs).2 ++ q :: r) := by
  simp only [stops, Bool.and_eq_true, bne_iff_ne] at hq
  cases cs with
  | nil => simp [readSign, hq]
  | cons c cs =>
    by_cases hplus : c = '+'
    · subst hplus
      rfl
    · by_cases hminus : c = '-'
      · subst hminus
        rfl
      · simp [readSign, hplus, hminus]

theorem readDigits_append (cs r : List Char) :
    readDigits (cs ++ q :: r) = ((readDigits cs).1, (readDigits cs).2 ++ q :: r) := by
  have hdigit : Char.isDigit q = false := by
    simp only [stops, Bool.and_eq_true, Bool.not_eq_true'] at hq
    exact hq.1.1.1.1.1
  have htake : (cs ++ q :: r).takeWhile Char.isDigit = cs.takeWhile Char.isDigit := by
    have := takeWhile_take_append hdigit (cs ++ q :: r).length cs r
    rw [List.take_length] at this
    rw [this, List.take_of_length_le (by simp)]
  simp only [readDigits, htake, dropWhile_append hdigit]

theorem readFraction?_append (cs r : List Char) :
    readFraction? (cs ++ q :: r) = (readFraction? cs).map fun p => (p.1, p.2 ++ q :: r) := by
  cases cs with
  | nil =>
    simp only [stops, Bool.and_eq_true, bne_iff_ne] at hq
    simp [readFraction?, hq]
  | cons c cs =>
    by_cases hdot : c = '.'
    · subst hdot
      simp only [List.cons_append, readFraction?, readDigits_append hq]
      obtain ⟨ds, rest⟩ := readDigits cs
      cases ds <;> rfl
    · simp [readFraction?, hdot]

theorem readExponent?_append (cs r : List Char) :
    readExponent? (cs ++ q :: r) = (readExponent? cs).map fun p => (p.1, p.2 ++ q :: r) := by
  cases cs with
  | nil =>
    simp only [stops, Bool.and_eq_true, bne_iff_ne] at hq
    simp [readExponent?, hq]
  | cons c cs =>
    simp only [List.cons_append, readExponent?, readSign_append hq, readDigits_append hq]
    split
    · obtain ⟨sign, rest⟩ := readSign cs
      simp only
      obtain ⟨ds, rest⟩ := readDigits rest
      cases ds <;> rfl
    · rfl

/-- A number ends before such a character. -/
theorem read_append (cs r : List Char) :
    read (cs ++ q :: r) = ((read cs).1, (read cs).2 ++ q :: r) := by
  simp only [read, readSign_append hq, readDigits_append hq, readFraction?_append hq]
  cases readFraction? (readDigits (readSign cs).2).2 with
  | none =>
    simp only [Option.map_none, Option.getD_none, readExponent?_append hq]
    cases readExponent? (readDigits (readSign cs).2).2 <;> rfl
  | some p =>
    simp only [Option.map_some, Option.getD_some, readExponent?_append hq]
    cases readExponent? p.2 <;> rfl

theorem starts_append (cs r : List Char) : starts (cs ++ q :: r) = starts cs := by
  simp only [starts, readSign_append hq]
  simp only [stops, Bool.and_eq_true, bne_iff_ne, Bool.not_eq_true'] at hq
  cases (readSign cs).2 with
  | nil => simp [hq]
  | cons c u =>
    by_cases hdot : c = '.'
    · subst hdot
      cases u with
      | nil => simp [hq]
      | cons d u => rfl
    · simp [hdot]

end

end Numeral

theorem startsName_append {a b : Char} (ha : IsDivider a) (hb : IsDivider b)
    (cs r s : List Char) : startsName (cs ++ a :: r) = startsName (cs ++ b :: s) := by
  have hescape := fun cs => startsEscape_append ha hb cs r s
  obtain ⟨-, hstart, ha⟩ := ha.facts
  obtain ⟨-, hstart', hb⟩ := hb.facts
  simp only [List.mem_cons, List.not_mem_nil, or_false, not_or] at ha hb
  match cs with
  | [] => simp [startsName, ha, hb, hstart, hstart']
  | c :: cs =>
    by_cases hslash : c = '\\'
    · subst hslash
      exact hescape ('\\' :: cs)
    by_cases hminus : c = '-'
    · subst hminus
      match cs with
      | [] => simp [startsName, ha, hb, hstart, hstart']
      | d :: cs =>
        by_cases hslash : d = '\\'
        · subst hslash
          exact hescape ('\\' :: cs)
        by_cases hminus : d = '-'
        · subst hminus
          rfl
        · simp [startsName]
    · simp [startsName]

/-! ### Tokens -/

theorem localAt_readNumeric (cs : List Char) : LocalAt readNumeric cs := by
  have hread := Numeral.read_append (q := ';') (by decide) cs
  have hsuffix := Numeral.read_suffix cs
  have hstarts := fun r =>
    startsName_append isDivider_semicolon isDivider_semicolon (Numeral.read cs).2 r []
  cases hname : startsName ((Numeral.read cs).2 ++ [';']) with
  | true =>
    refine ((localAt_readName (Numeral.read cs).2).map fun unit =>
      Token.dimension (Numeral.read cs).1 (String.ofList unit)).via hsuffix fun r => ?_
    simp only [readNumeric, hread, hstarts, hname, ↓reduceIte]
  | false =>
    by_cases hpercent : ∃ u, (Numeral.read cs).2 = '%' :: u
    · obtain ⟨u, hu⟩ := hpercent
      rw [hu] at hsuffix hstarts hname
      refine .stop ((List.suffix_cons _ u).trans hsuffix)
        (x := .percentage (Numeral.read cs).1) fun r => ?_
      simp only [readNumeric, hread, hu, hstarts, hname]
      rfl
    · refine .stop hsuffix (x := .number (Numeral.read cs).1) fun r => ?_
      simp only [readNumeric, hread, hstarts, hname]
      cases hrest : (Numeral.read cs).2 with
      | nil => rfl
      | cons c u =>
        have hc : c ≠ '%' := by
          rintro rfl
          exact hpercent ⟨u, hrest⟩
        simp [hc]

/-- What is read after a name. -/
def endNamed (name : List Char) : List Char → Token × List Char
  | '(' :: r =>
    if Text.sameIgnoringCase (String.ofList name) "url" then
      ((readUrl r).1.elim .badUrl fun address => .url (String.ofList address), (readUrl r).2)
    else (.function (String.ofList name), r)
  | r => (.ident (String.ofList name), r)

theorem readNamed_eq (cs : List Char) : readNamed cs =
    endNamed (readName cs).1 (readName cs).2 := by
  unfold readNamed
  split
  · rename_i name r heq
    simp only [heq, endNamed]
    split
    · obtain ⟨address, rest⟩ := readUrl r
      cases address <;> rfl
    · rfl
  · rename_i name rest hne heq
    simp only [heq]
    unfold endNamed
    split
    · exact absurd rfl (hne _)
    · rfl

theorem localAt_endNamed (name cs : List Char) : LocalAt (endNamed name) cs := by
  have hident : (∀ u, cs ≠ '(' :: u) → LocalAt (endNamed name) cs := by
    intro hne
    refine .stop List.suffix_rfl (x := .ident (String.ofList name)) fun r => ?_
    cases cs with
    | nil => rfl
    | cons c u =>
      have hc : c ≠ '(' := by
        rintro rfl
        exact hne u rfl
      simp [endNamed, hc]
  by_cases hopen : ∃ u, cs = '(' :: u
  · obtain ⟨u, rfl⟩ := hopen
    cases hurl : Text.sameIgnoringCase (String.ofList name) "url" with
    | true =>
      refine ((localAt_readUrl u).map fun address =>
        address.elim Token.badUrl fun address => .url (String.ofList address)).cons fun r => ?_
      simp only [List.cons_append, endNamed, hurl, ↓reduceIte]
    | false =>
      refine .stop (List.suffix_cons _ u) (x := .function (String.ofList name)) fun r => ?_
      simp [endNamed, hurl]
  · exact hident fun u hu => hopen ⟨u, hu⟩

theorem localAt_readNamed (cs : List Char) : LocalAt readNamed cs := by
  refine ((localAt_readName cs).bind (fun x u _ => localAt_endNamed x u) fun x => rfl).via
    List.suffix_rfl fun r => ?_
  rw [readNamed_eq]

theorem localAt_readQuoted {q : Char} (hq : q ≠ ';') (cs : List Char) :
    LocalAt (readQuoted q) cs := by
  refine ((localAt_readString hq cs).map fun value =>
    value.elim Token.badString fun value => .string (String.ofList value)).via List.suffix_rfl
    fun r => ?_
  unfold readQuoted
  split
  all_goals
    rename_i heq
    rw [heq]
    rfl

theorem isPrefixOf_append {mark : List Char} {q : Char} (hmark : q ∉ mark) (cs r : List Char) :
    mark.isPrefixOf (cs ++ q :: r) = mark.isPrefixOf cs := by
  induction mark generalizing cs with
  | nil => simp
  | cons d mark ih =>
    simp only [List.mem_cons, not_or] at hmark
    cases cs with
    | nil => simp [List.isPrefixOf, Ne.symm hmark.1]
    | cons c cs => simp [List.isPrefixOf, ih hmark.2]

/-- The first token of a text without blanks at its start. -/
def readHead : List Char → Token × List Char
  | c :: r => readToken c r
  | [] => (.blank, [])

/-- A mark that stands at the start of the text is dropped. -/
theorem localAt_drop {mark : List Char} (h : mark.isPrefixOf cs) (t : Token) :
    LocalAt (fun l => (t, l.tail.drop mark.length)) (c :: cs) := by
  have hlength := (List.isPrefixOf_iff_prefix.1 h).length_le
  refine .stop ((List.drop_suffix mark.length cs).trans (List.suffix_cons c cs))
    (x := t) fun r => ?_
  rw [List.cons_append, List.tail_cons, List.drop_append_of_le_length hlength]

theorem localAt_readHead (hc : c ≠ ';') (cs : List Char) : LocalAt readHead (c :: cs) := by
  have hself : LocalAt (fun l => (single c, l.tail)) (c :: cs) :=
    .stop (List.suffix_cons c cs) fun r => rfl
  have hhash : LocalAt (fun l => if l.tail.head?.any isNameChar || startsEscape l.tail then
      (Token.hash (String.ofList (readName l.tail).1) (startsName l.tail), (readName l.tail).2)
      else (single c, l.tail)) (c :: cs) := by
    refine .ite (p := fun l => l.tail.head?.any isNameChar || startsEscape l.tail) (fun r => ?_)
      (fun _ => ?_) fun _ => hself
    · have hescape := startsEscape_append isDivider_semicolon isDivider_semicolon cs r []
      cases cs <;> simp_all
    · refine ((localAt_readName cs).map fun name =>
        Token.hash (String.ofList name) (startsName (cs ++ [';']))).cons fun r => ?_
      rw [List.cons_append, List.tail_cons,
        startsName_append isDivider_semicolon isDivider_semicolon cs r []]
  have hat : LocalAt (fun l => if startsName l.tail then
      (Token.atKeyword (String.ofList (readName l.tail).1), (readName l.tail).2)
      else (single c, l.tail)) (c :: cs) :=
    .ite (p := fun l => startsName l.tail)
      (fun r => startsName_append isDivider_semicolon isDivider_semicolon cs r [])
      (fun _ => ((localAt_readName cs).map fun name => Token.atKeyword (String.ofList name)).cons
        fun _ => rfl) fun _ => hself
  have hmark : ∀ {d : Char} {mark : List Char}, ';' ∉ mark → ∀ r,
      (c == d && mark.isPrefixOf (c :: cs ++ ';' :: r).tail) =
        (c == d && mark.isPrefixOf (c :: cs ++ [';']).tail) := by
    intro d mark hmark r
    rw [List.cons_append, List.cons_append, List.tail_cons, List.tail_cons,
      isPrefixOf_append hmark, isPrefixOf_append hmark]
  have hdrop : ∀ {d : Char} {mark : List Char} (t : Token), ';' ∉ mark →
      (c == d && mark.isPrefixOf (c :: cs ++ [';']).tail) →
      LocalAt (fun l => (t, l.tail.drop mark.length)) (c :: cs) := by
    intro d mark t hmark h
    rw [List.cons_append, List.tail_cons, isPrefixOf_append hmark, Bool.and_eq_true] at h
    exact localAt_drop h.2 t
  have hstarts : ∀ r, Numeral.starts (c :: cs ++ ';' :: r) = Numeral.starts (c :: cs ++ [';']) :=
    fun r => by rw [Numeral.starts_append (by decide), Numeral.starts_append (by decide)]
  -- the branches, in the order in which they are tried
  have htoken := LocalAt.ite (p := fun _ => c == '"' || c == '\'') (fun _ => rfl)
    (fun _ => (localAt_readQuoted hc cs).cons (g := fun l => readQuoted c l.tail) fun _ => rfl)
    fun _ =>
    LocalAt.ite (p := fun _ => c == '#') (fun _ => rfl) (fun _ => hhash) fun _ =>
    LocalAt.ite (p := Numeral.starts) hstarts (fun _ => localAt_readNumeric (c :: cs)) fun _ =>
    LocalAt.ite (p := fun _ => c == '@') (fun _ => rfl) (fun _ => hat) fun _ =>
    LocalAt.ite (p := fun l => c == '-' && ['-', '>'].isPrefixOf l.tail) (hmark (by decide))
      (hdrop .markupClose (by decide)) fun _ =>
    LocalAt.ite (p := fun l => c == '<' && ['!', '-', '-'].isPrefixOf l.tail) (hmark (by decide))
      (hdrop .markupOpen (by decide)) fun _ =>
    LocalAt.ite (p := startsName)
      (fun r => startsName_append isDivider_semicolon isDivider_semicolon (c :: cs) r [])
      (fun _ => localAt_readNamed (c :: cs)) fun _ => hself
  exact htoken.via List.suffix_rfl fun r => rfl

/-- Blanks and semicolons are read only where a character on its own is one. -/
theorem single_eq_of_readToken {t : Token} (ht : t = .blank ∨ t = .semicolon)
    (h : (readToken c r).1 = t) : single c = t := by
  have hne : ∀ u : Token, u ≠ .blank → u ≠ .semicolon → u ≠ t := by
    rintro u hblank hsemicolon rfl
    exact ht.elim hblank hsemicolon
  refine Decidable.byContradiction fun hsingle => absurd h ?_
  unfold readToken
  split
  · unfold readQuoted
    split <;> exact hne _ (by simp) (by simp)
  split
  · split
    · exact hne _ (by simp) (by simp)
    · exact hsingle
  split
  · simp only [readNumeric]
    split
    · exact hne _ (by simp) (by simp)
    · split <;> exact hne _ (by simp) (by simp)
  split
  · split
    · exact hne _ (by simp) (by simp)
    · exact hsingle
  split
  · exact hne _ (by simp) (by simp)
  split
  · exact hne _ (by simp) (by simp)
  split
  · rw [readNamed_eq]
    unfold endNamed
    split
    · split
      · cases (readUrl _).1 <;> exact hne _ (by simp) (by simp)
      · exact hne _ (by simp) (by simp)
    · exact hne _ (by simp) (by simp)
  · exact hsingle

theorem readToken_ne_blank (c : Char) (r : List Char) : (readToken c r).1 ≠ .blank := by
  intro h
  have hsingle := single_eq_of_readToken (.inl rfl) h
  unfold single at hsingle
  split at hsingle <;> simp at hsingle

theorem readToken_ne_semicolon (hc : c ≠ ';') (r : List Char) : (readToken c r).1 ≠ .semicolon := by
  intro h
  have hsingle := single_eq_of_readToken (.inr rfl) h
  unfold single at hsingle
  split at hsingle <;> simp_all

theorem localAt_skipComment (cs : List Char) : LocalAt (fun l => ((), skipComment l)) cs := by
  induction cs with
  | nil => exact .inl rfl
  | cons c cs ih =>
    by_cases hend : c = '*' ∧ ∃ u, cs = '/' :: u
    · obtain ⟨rfl, u, rfl⟩ := hend
      exact .stop ((List.suffix_cons _ u).trans (List.suffix_cons _ _)) (x := ()) fun r => rfl
    · refine ih.cons fun r => ?_
      rw [List.cons_append, skipComment]
      intro u hc hu
      refine hend ⟨hc, ?_⟩
      cases cs with
      | nil => simp at hu
      | cons d cs => exact ⟨cs, by rw [(List.cons.inj hu).1]⟩

theorem localAt_skipSpace (seen : Bool) (cs : List Char) : LocalAt (skipSpace seen) cs := by
  induction cs using length_induction generalizing seen with
  | h cs ih =>
    cases cs with
    | nil =>
      exact .stop List.suffix_rfl (x := seen) fun r => skipSpace_cons (by decide) (by decide) seen
    | cons c cs =>
      by_cases hcomment : c = '/' ∧ ∃ u, cs = '*' :: u
      · obtain ⟨rfl, u, rfl⟩ := hcomment
        have hlt : ∀ v, v <:+ u → v.length < ('/' :: '*' :: u).length := fun v hv =>
          Nat.lt_trans (lt_of_suffix hv) (lt_of_suffix List.suffix_rfl)
        refine ((localAt_skipComment u).bind (fun _ v hv => ih v (hlt v hv) seen) fun _ => ?_).via
          (List.suffix_append ['/', '*'] u) fun r => ?_
        · rw [skipSpace]
        · rw [List.cons_append, List.cons_append, skipSpace]
      · have hskip : ∀ r, skipSpace seen (c :: (cs ++ ';' :: r)) =
            if Text.isAsciiBlank c then skipSpace true (cs ++ ';' :: r)
            else (seen, c :: (cs ++ ';' :: r)) := by
          intro r
          rw [skipSpace]
          intro u hc hu
          refine hcomment ⟨hc, ?_⟩
          cases cs with
          | nil => simp at hu
          | cons d cs => exact ⟨cs, by rw [(List.cons.inj hu).1]⟩
        by_cases hblank : Text.isAsciiBlank c
        · refine (ih cs (lt_of_suffix List.suffix_rfl) true).cons fun r => ?_
          rw [List.cons_append, hskip, if_pos hblank]
        · refine .stop List.suffix_rfl (x := seen) fun r => ?_
          rw [List.cons_append, hskip, if_neg hblank]

/-- What the next token has to do with a semicolon after the text: all is taken for a token that is
no semicolon, or the semicolon is the next token, or the next token ends before it. -/
theorem next?_append (cs : List Char) :
    (∀ p, next? (cs ++ [';']) = some p → p.1 ≠ .semicolon ∧ p.2 = []) ∨
    (∀ r, next? (cs ++ ';' :: r) = some (.semicolon, r)) ∨
    ∃ t u, ∀ r, next? (cs ++ ';' :: r) = some (t, u ++ ';' :: r) := by
  rcases localAt_skipSpace false cs with hopen | ⟨seen, u, -, hskip⟩
  · refine .inl fun p hp => ?_
    obtain ⟨seen, hskip⟩ : ∃ seen, skipSpace false (cs ++ [';']) = (seen, []) :=
      ⟨_, Prod.ext rfl hopen⟩
    rw [next?, hskip] at hp
    cases seen with
    | true => exact Option.some.inj hp ▸ ⟨by simp, rfl⟩
    | false => simp at hp
  · cases seen with
    | true => exact .inr (.inr ⟨.blank, u, fun r => by simp only [next?, hskip]⟩)
    | false =>
      cases u with
      | nil => exact .inr (.inl fun r => by simp only [next?, hskip]; rfl)
      | cons c u =>
        have hnext : ∀ r, next? (cs ++ ';' :: r) =
          some (readHead (c :: u ++ ';' :: r)) := fun r => by
          simp only [next?, hskip]
          rfl
        by_cases hc : c = ';'
        · subst hc
          exact .inr (.inr ⟨.semicolon, u, fun r => hnext r⟩)
        · rcases localAt_readHead hc u with hopen | ⟨t, v, -, hread⟩
          · refine .inl fun p hp => ?_
            obtain rfl := Option.some.inj ((hnext []).symm.trans hp)
            exact ⟨readToken_ne_semicolon hc _, hopen⟩
          · exact .inr (.inr ⟨t, v, fun r => by rw [hnext, hread]⟩)

/-- Whether reading a text comes to a semicolon that ends it. -/
def endsInSemicolon (cs : List Char) : Bool :=
  match h : next? cs with
  | none => false
  | some (t, rest) =>
    have : rest.length < cs.length := next?_length_lt h
    (t == .semicolon && rest.isEmpty) || endsInSemicolon rest
  termination_by cs.length

theorem endsInSemicolon_of_next? {t : Token} {rest : List Char} (h : next? cs = some (t, rest)) :
    endsInSemicolon cs = ((t == .semicolon && rest.isEmpty) || endsInSemicolon rest) := by
  rw [endsInSemicolon]
  split
  · simp_all
  · rename_i heq
    obtain ⟨rfl, rfl⟩ := Prod.mk.inj (Option.some.inj (h.symm.trans heq))
    rfl

theorem not_endsInSemicolon_of_next? (h : next? cs = none) : endsInSemicolon cs = false := by
  rw [endsInSemicolon]
  split
  · rfl
  · simp_all

theorem not_endsInSemicolon_nil : endsInSemicolon [] = false :=
  not_endsInSemicolon_of_next? (by simp [next?, skipSpace.eq_def])

theorem endsInSemicolon_blank_cons (h : endsInSemicolon cs) : endsInSemicolon (' ' :: cs) := by
  obtain ⟨rest, hblank, hcs⟩ := next?_blank_cons cs
  have hrest : endsInSemicolon rest = endsInSemicolon cs := by
    rcases hcs with hcs | hcs
    · rw [endsInSemicolon_of_next? hcs]
      rfl
    · cases hnext : next? cs with
      | none =>
        rw [not_endsInSemicolon_of_next? hnext, not_endsInSemicolon_of_next? (hcs.trans hnext)]
      | some p => rw [endsInSemicolon_of_next? hnext, endsInSemicolon_of_next? (hcs.trans hnext)]
  rw [endsInSemicolon_of_next? hblank, hrest, h, Bool.or_true]

/-- Where a text is read to a semicolon at its end, it is read the same whatever follows. -/
theorem tokens_append_semicolon (h : endsInSemicolon (cs ++ [';'])) (r : List Char) :
    tokens (cs ++ ';' :: r) = tokens (cs ++ [';']) ++ tokens r := by
  induction cs using length_induction with
  | h cs ih =>
    rcases next?_append cs with hopen | hlast | ⟨t, u, hnext⟩
    · exfalso
      cases hnext : next? (cs ++ [';']) with
      | none =>
        rw [endsInSemicolon] at h
        split at h
        · simp at h
        · simp_all
      | some p =>
        obtain ⟨ht, hrest⟩ := hopen p hnext
        obtain ⟨t, rest⟩ := p
        simp only at ht hrest
        rw [endsInSemicolon_of_next? hnext, hrest, not_endsInSemicolon_nil] at h
        simp [ht] at h
    · rw [tokens_of_next? (hlast r), tokens_of_next? (hlast []), tokens_nil]
      rfl
    · have hlt := next?_length_lt (hnext [])
      simp only [List.length_append, List.length_cons, List.length_nil] at hlt
      have hrest : endsInSemicolon (u ++ [';']) := by
        rw [endsInSemicolon_of_next? (hnext [])] at h
        simpa using h
      rw [tokens_of_next? (hnext r), tokens_of_next? (hnext []), ih u (by omega) hrest]
      rfl

end WebStyle
