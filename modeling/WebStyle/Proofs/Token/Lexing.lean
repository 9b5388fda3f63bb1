import WebStyle.Proofs.Token.Printed
/-!
How printed tokens are read where others follow them.
-/
set_option autoImplicit false

namespace WebStyle

open Lexer

variable {c : Char} {r rest s : List Char} {t : Token}

/-! ### One token after the other -/

theorem skipSpace_cons (hb : Text.isAsciiBlank c = false) (hs : c ≠ '/') (seen : Bool) :
    skipSpace seen (c :: r) = (seen, c :: r) := by
  rw [skipSpace.eq_def]
  split
  · rename_i heq
    exact absurd (List.cons.inj heq).1 hs
  · rename_i heq
    obtain ⟨rfl, rfl⟩ := List.cons.inj heq
    simp [hb]
  · rename_i heq
    exact absurd heq (List.cons_ne_nil c r)

theorem tokens_of_next?_eq_none {cs : List Char} (h : next? cs = none) : tokens cs = [] := by
  rw [tokens.eq_def]
  split
  · rfl
  · simp_all

@[simp] theorem tokens_nil : tokens [] = [] :=
  tokens_of_next?_eq_none (by simp [next?, skipSpace.eq_def])

theorem tokens_of_next? {cs : List Char} (h : next? cs = some (t, rest)) :
    tokens cs = t :: tokens rest := by
  rw [tokens.eq_def]
  split
  · simp_all
  · rename_i heq
    obtain ⟨rfl, rfl⟩ := Prod.mk.inj (Option.some.inj (h.symm.trans heq))
    rfl

theorem next?_cons (hb : Text.isAsciiBlank c = false) (hs : c ≠ '/')
    (h : readToken c r = (t, rest)) : next? (c :: r) = some (t, rest) := by
  simp [next?, skipSpace_cons hb hs, h]

theorem tokens_cons (hb : Text.isAsciiBlank c = false) (hs : c ≠ '/')
    (h : readToken c r = (t, rest)) : tokens (c :: r) = t :: tokens rest :=
  tokens_of_next? (next?_cons hb hs h)

/-- Whether a text does not start with a blank or a comment. -/
def StartsToken (r : List Char) : Prop := ∀ c ∈ r.head?, Text.isAsciiBlank c = false ∧ c ≠ '/'

theorem startsToken_cons {c : Char} (hb : Text.isAsciiBlank c = false) (hs : c ≠ '/')
    (r : List Char) : StartsToken (c :: r) := by
  rintro d ⟨⟩
  exact ⟨hb, hs⟩

theorem tokens_blank (h : StartsToken r) : tokens (' ' :: r) = .blank :: tokens r := by
  have hskip : skipSpace true r = (true, r) := by
    cases r with
    | nil => rw [skipSpace.eq_def]
    | cons c r =>
      obtain ⟨hb, hs⟩ := h c rfl
      exact skipSpace_cons hb hs true
  refine tokens_of_next? ?_
  rw [next?, skipSpace.eq_def]
  simp [Text.isAsciiBlank, hskip]

theorem skipSpace_true (seen : Bool) (cs : List Char) :
    skipSpace true cs = (true, (skipSpace seen cs).2) := by
  fun_induction skipSpace seen cs with
  | case1 seen r _ ih => rw [skipSpace, ih]
  | case2 seen c r hne hb ih =>
    rw [skipSpace, if_pos hb, ih]
    exact hne
  | case3 seen c r hne hb =>
    rw [skipSpace, if_neg hb]
    exact hne
  | case4 => rw [skipSpace]

theorem skipSpace_skipped (seen : Bool) (cs : List Char) :
    skipSpace false (skipSpace seen cs).2 = (false, (skipSpace seen cs).2) := by
  fun_induction skipSpace seen cs with
  | case1 seen r _ ih => exact ih
  | case2 seen c r hne hb ih => exact ih
  | case3 seen c r hne hb =>
    rw [skipSpace, if_neg hb]
    exact hne
  | case4 => rw [skipSpace]

/-- A blank before a text is a token of its own, if no blank comes first anyway. -/
theorem next?_blank_cons (cs : List Char) :
    ∃ rest, next? (' ' :: cs) = some (.blank, rest) ∧
      (next? cs = some (.blank, rest) ∨ next? rest = next? cs) := by
  refine ⟨(skipSpace false cs).2, ?_, ?_⟩
  · rw [next?, skipSpace, if_pos (by decide), skipSpace_true false]
    simp
  · cases hskip : skipSpace false cs with
    | mk seen rest =>
      cases seen with
      | true => exact .inl (by rw [next?, hskip])
      | false =>
        have hskipped := skipSpace_skipped false cs
        rw [hskip] at hskipped
        exact .inr (by rw [next?, next?, hskipped, hskip])

theorem tokens_congr {cs cs' : List Char} (h : next? cs = next? cs') : tokens cs = tokens cs' := by
  cases hnext : next? cs' with
  | none => rw [tokens_of_next?_eq_none hnext, tokens_of_next?_eq_none (h.trans hnext)]
  | some p => rw [tokens_of_next? hnext, tokens_of_next? (h.trans hnext)]

theorem tokens_blank_cons (cs : List Char) :
    tokens (' ' :: cs) = tokens cs ∨ tokens (' ' :: cs) = .blank :: tokens cs := by
  obtain ⟨rest, hblank, hcs | hcs⟩ := next?_blank_cons cs
  · exact .inl ((tokens_of_next? hblank).trans (tokens_of_next? hcs).symm)
  · exact .inr (tokens_congr hcs ▸ tokens_of_next? hblank)

/-- The characters that are tokens of their own, whatever follows. -/
def singles : List Char := [':', ',', '[', ']', '(', ')', '*', '=', '~', '|', '^', '$', '>']

theorem tokens_single (h : c ∈ singles) (r : List Char) :
    tokens (c :: r) = single c :: tokens r := by
  simp only [singles, List.mem_cons, List.not_mem_nil, or_false] at h
  rcases h with rfl | rfl | rfl | rfl | rfl | rfl | rfl | rfl | rfl | rfl | rfl | rfl | rfl <;>
    exact tokens_cons (by decide) (by decide) rfl

/-! ### Names -/

theorem not_isDigit_of_isNameStart (h : isNameStart c) : ¬ c.isDigit := by
  simp only [isNameStart, Text.isAscii, Bool.or_eq_true, isAlpha_iff_toNat, beq_iff_eq,
    Bool.not_eq_true', decide_eq_false_iff_not] at h
  rw [Char.isDigit_iff_toNat]
  change ¬ (48 ≤ c.toNat ∧ c.toNat ≤ 57)
  rcases h with (h | rfl) | h
  · omega
  · decide
  · omega

theorem startsName_cases (h : startsName (c :: r)) :
    c = '-' ∧ (∃ d t, r = d :: t ∧ (d = '-' ∨ d = '\\' ∨ isNameStart d)) ∨ c = '\\' ∨
      isNameStart c := by
  unfold startsName at h
  split at h
  · rename_i heq
    obtain ⟨rfl, rfl⟩ := List.cons.inj heq
    refine .inl ⟨rfl, ?_⟩
    split at h
    · exact ⟨_, _, rfl, .inl rfl⟩
    · exact ⟨_, _, rfl, .inr (.inl rfl)⟩
    · exact ⟨_, _, rfl, .inr (.inr h)⟩
    · simp at h
  · rename_i heq
    exact .inr (.inl (List.cons.inj heq).1)
  · rename_i heq
    exact .inr (.inr ((List.cons.inj heq).1 ▸ h))
  · simp at h

/-- No number starts with the character of a name, whether a sign stands before it or not. -/
theorem not_starts_of_readSign {cs : List Char} (hsign : (Numeral.readSign cs).2 = c :: r)
    (hc : c = '-' ∨ c = '\\' ∨ isNameStart c) : Numeral.starts cs = false := by
  have hdigit : c.isDigit = false := by
    rcases hc with rfl | rfl | hc
    · decide
    · decide
    · simpa using not_isDigit_of_isNameStart hc
  have hdot : c ≠ '.' := by
    rintro rfl
    rcases hc with hc | hc | hc <;> exact absurd hc (by decide)
  simpa [Numeral.starts, hsign, hdot] using hdigit

/-- No number starts where a name does. -/
theorem not_starts_of_startsName (h : startsName (c :: r)) : Numeral.starts (c :: r) = false := by
  rcases startsName_cases h with ⟨rfl, d, t, rfl, hd⟩ | hc
  · exact not_starts_of_readSign rfl hd
  · have hsign : (Numeral.readSign (c :: r)).2 = c :: r := by
      unfold Numeral.readSign
      split
      · rename_i heq
        obtain ⟨rfl, -⟩ := List.cons.inj heq
        rcases hc with hc | hc <;> exact absurd hc (by decide)
      · rename_i heq
        obtain ⟨rfl, -⟩ := List.cons.inj heq
        rcases hc with hc | hc <;> exact absurd hc (by decide)
      · rfl
    exact not_starts_of_readSign hsign (.inr hc)

theorem readToken_of_startsName (h : startsName (c :: r))
    (hm : ¬ (c = '-' ∧ ['-', '>'].isPrefixOf r)) : readToken c r = readNamed (c :: r) := by
  have hnot : ∀ d, isNameStart d = false → d ≠ '-' → d ≠ '\\' → c ≠ d := by
    rintro d hd hm hs rfl
    rcases startsName_cases h with ⟨rfl, -⟩ | rfl | hc
    · exact hm rfl
    · exact hs rfl
    · simp [hd] at hc
  have hnumber := not_starts_of_startsName h
  have hmarkup : (c == '-' && ['-', '>'].isPrefixOf r) = false := by
    rw [Bool.eq_false_iff, ne_eq, Bool.and_eq_true, beq_iff_eq]
    exact hm
  simp [readToken, hnot '"' (by decide) (by decide) (by decide),
    hnot '\'' (by decide) (by decide) (by decide), hnot '#' (by decide) (by decide) (by decide),
    hnot '@' (by decide) (by decide) (by decide), hnot '<' (by decide) (by decide) (by decide),
    hnumber, hmarkup, h]

/-- A name is no token of its own after a number sign only. -/
theorem startsName_head (h : startsName (c :: r)) :
    Text.isAsciiBlank c = false ∧ c ≠ '/' ∧ (isNameChar c ∨ startsEscape (c :: r)) := by
  rcases startsName_cases h with ⟨rfl, -⟩ | rfl | hc
  · exact ⟨by decide, by decide, .inl (by decide)⟩
  · exact ⟨by decide, by decide, .inr h⟩
  · refine ⟨?_, ?_, .inl (by simp [isNameChar, hc])⟩
    · refine Bool.eq_false_iff.2 fun hb => ?_
      simp only [Text.isAsciiBlank, Bool.or_eq_true, beq_iff_eq] at hb
      rcases hb with (((rfl | rfl) | rfl) | rfl) | rfl <;> exact absurd hc (by decide)
    · rintro rfl
      exact absurd hc (by decide)

theorem startsToken_of_startsName {cs : List Char} (h : startsName cs) : StartsToken cs := by
  cases cs with
  | nil => exact nofun
  | cons c r => exact startsToken_cons (startsName_head h).1 (startsName_head h).2.1 r

theorem startsEscape_extend {cs : List Char} (h : startsEscape cs) (r : List Char) :
    startsEscape (cs ++ r) := by
  unfold startsEscape at h
  split at h
  · simpa [startsEscape] using h
  · simp at h

/-- What starts a name does so whatever follows. -/
theorem startsName_extend {cs : List Char} (h : startsName cs) (r : List Char) :
    startsName (cs ++ r) := by
  unfold startsName at h
  split at h
  · split at h
    · rfl
    · exact startsEscape_extend h r
    · exact startsName_hyphen (by simp [isNameChar, h]) (not_isDigit_of_isNameStart h)
    · simp at h
  · exact startsEscape_extend h r
  · exact startsName_cons h
  · simp at h

/-- Whether a text can follow an identifier. -/
def EndsIdent (r : List Char) : Prop :=
  ∀ c ∈ r.head?, isNameChar c = false ∧ c ≠ '\\' ∧ c ≠ '(' ∧ c ≠ '>'

theorem EndsIdent.endsName (h : EndsIdent r) : EndsName r := fun c hc =>
  ⟨(h c hc).1, (h c hc).2.1⟩

theorem readNamed_ident {cs : List Char} (h : readName cs = (s, r)) (hr : r.head? ≠ some '(') :
    readNamed cs = (.ident (String.ofList s), r) := by
  rw [readNamed, h]
  split
  · rename_i heq
    obtain ⟨-, rfl⟩ := Prod.mk.inj heq
    exact absurd rfl hr
  · rename_i heq
    obtain ⟨rfl, rfl⟩ := Prod.mk.inj heq
    rfl

/-- Two hyphens are the name that could go on as the end of a comment in markup. -/
theorem readName_markupClose (r : List Char) :
    readName ('-' :: '-' :: '>' :: r) = (['-', '-'], '>' :: r) := by
  rw [readName_cons (by decide), readName_cons (by decide), EndsName.readName (by
    rintro c ⟨⟩
    decide)]

/-- A name that is read to its end is an identifier, as long as it does not close a comment in
markup. -/
theorem next?_ident {cs : List Char} (hstart : startsName cs)
    (h : readName cs = (s, r)) (hparen : r.head? ≠ some '(')
    (hclose : s = ['-', '-'] → r.head? ≠ some '>') :
    next? cs = some (.ident (String.ofList s), r) := by
  cases cs with
  | nil => simp [startsName] at hstart
  | cons c cs =>
    obtain ⟨hb, hs, -⟩ := startsName_head hstart
    refine next?_cons hb hs ?_
    rw [readToken_of_startsName hstart, readNamed_ident h hparen]
    rintro ⟨rfl, hprefix⟩
    obtain ⟨u, rfl⟩ := List.isPrefixOf_iff_prefix.1 hprefix
    simp only [List.cons_append, List.nil_append, readName_markupClose] at h
    obtain ⟨rfl, rfl⟩ := Prod.mk.inj h
    exact hclose rfl rfl

theorem next?_of_readName {cs : List Char} (hstart : startsName cs)
    (h : readName cs = (s, r)) (hr : EndsIdent r) :
    next? cs = some (.ident (String.ofList s), r) :=
  next?_ident hstart h (fun heq => (hr '(' heq).2.2.1 rfl) fun _ heq => (hr '>' heq).2.2.2 rfl

theorem tokens_of_readName {cs : List Char} (hstart : startsName cs)
    (h : readName cs = (s, r)) (hr : EndsIdent r) :
    tokens cs = .ident (String.ofList s) :: tokens r :=
      tokens_of_next? (next?_of_readName hstart h hr)

theorem tokens_ident (hs : '\x00' ∉ s) (hne : s ≠ []) (hr : EndsIdent r) :
    tokens (Printer.name s ++ r) = .ident (String.ofList s) :: tokens r :=
  tokens_of_readName (startsName_printed hs hne r) (readName_printed hs hr.endsName.readName) hr

theorem tokens_function {cs : List Char} (hstart : startsName cs)
    (h : readName cs = (s, '(' :: r)) (hurl : Text.sameIgnoringCase
    (String.ofList s) "url" = false) :
    tokens cs = .function (String.ofList s) :: tokens r := by
  cases cs with
  | nil => simp [startsName] at hstart
  | cons c cs =>
    obtain ⟨hb, hs, -⟩ := startsName_head hstart
    refine tokens_cons hb hs ?_
    rw [readToken_of_startsName hstart, readNamed, h]
    · simp [hurl]
    · rintro ⟨rfl, hprefix⟩
      obtain ⟨u, rfl⟩ := List.isPrefixOf_iff_prefix.1 hprefix
      simp only [List.cons_append, List.nil_append, readName_markupClose] at h
      simp at h

theorem tokens_hash (hs : '\x00' ∉ s) (hne : s ≠ []) (hr : EndsName r) :
    tokens ('#' :: (Printer.name s ++ r)) = .hash (String.ofList s) true :: tokens r := by
  refine tokens_cons (by decide) (by decide) ?_
  have hstart := startsName_printed hs hne r
  have hread := readName_printed hs hr.readName
  cases hcs : Printer.name s ++ r with
  | nil => simp [hcs, startsName] at hstart
  | cons c cs =>
    rw [hcs] at hstart hread
    have hhead := (startsName_head hstart).2.2
    simp [readToken, hhead, hread, hstart]

theorem tokens_string (hs : '\x00' ∉ s) (r : List Char) :
    tokens (Printer.string s ++ r) = .string (String.ofList s) :: tokens r := by
  rw [Printer.string, List.append_assoc, List.cons_append]
  refine tokens_cons (by decide) (by decide) ?_
  have hread := readString_printed hs r
  simp [readToken, readQuoted, hread]

/-- A dot that a name follows. -/
theorem tokens_dot {d : Char} (hd : ¬ d.isDigit) (r : List Char) :
    tokens ('.' :: d :: r) = .delim '.' :: tokens (d :: r) := by
  refine tokens_cons (by decide) (by decide) ?_
  have hnumber : Numeral.starts ('.' :: d :: r) = false := by
    simp [Numeral.starts, Numeral.readSign, hd]
  have hname : startsName ('.' :: d :: r) = false := by
    simp [startsName]
    decide
  simp [readToken, hnumber, hname, single]

/-- A plus sign that a blank follows. -/
theorem tokens_plus (r : List Char) : tokens ('+' :: ' ' :: r) = .delim '+' :: tokens (' ' :: r) :=
  tokens_cons (by decide) (by decide) rfl

end WebStyle
