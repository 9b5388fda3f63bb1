import WebStyle.Proofs.Token.Lexing
/-!
What holds of the tokens that reading a text gives: names are not empty, no name or string holds the
null character, and a character that is a token of its own cannot start another one.
-/
set_option autoImplicit false

namespace WebStyle

open Lexer

variable {c : Char} {r : List Char}

/-! ### What is left of a text -/

theorem readEscape_suffix (cs : List Char) : (readEscape cs).2 <:+ cs := by
  cases cs with
  | nil => exact List.suffix_rfl
  | cons c r =>
    simp only [readEscape]
    split
    · have hskip : ∀ l : List Char, skipOneBlank l <:+ l := by
        intro l
        cases l with
        | nil => exact List.suffix_rfl
        | cons d l =>
          simp only [skipOneBlank]
          split
          · exact List.suffix_cons d l
          · exact List.suffix_rfl
      exact ((hskip _).trans (List.drop_suffix _ r)).trans (List.suffix_cons c r)
    · exact List.suffix_cons c r

theorem readName_suffix (cs : List Char) : (readName cs).2 <:+ cs := by
  fun_induction readName cs with
  | case1 => exact List.suffix_rfl
  | case2 c r _ name rest heq ih =>
    rw [heq] at ih
    exact ih.trans (List.suffix_cons c r)
  | case3 c r _ _ _ name rest heq ih =>
    rw [heq] at ih
    exact (ih.trans (readEscape_suffix r)).trans (List.suffix_cons c r)
  | case4 => exact List.suffix_rfl

theorem readString_suffix (q : Char) (cs : List Char) : (readString q cs).2 <:+ cs := by
  fun_induction readString q cs with
  | case1 => exact List.suffix_rfl
  | case2 c r => exact List.suffix_cons c r
  | case3 => exact List.suffix_rfl
  | case4 c => exact List.suffix_cons c []
  | case5 c _ _ _ r ih => exact (ih.trans (List.suffix_cons _ r)).trans (List.suffix_cons c _)
  | case6 c _ _ _ d r _ _ value rest heq ih =>
    rw [heq] at ih
    exact (ih.trans (readEscape_suffix (d :: r))).trans (List.suffix_cons c _)
  | case7 c r _ _ _ value rest heq ih =>
    rw [heq] at ih
    exact ih.trans (List.suffix_cons c r)

theorem skipBadUrl_suffix (cs : List Char) : skipBadUrl cs <:+ cs := by
  fun_induction skipBadUrl cs with
  | case1 => exact List.suffix_rfl
  | case2 r => exact List.suffix_cons _ r
  | case3 c r ih => exact (ih.trans (List.suffix_cons c r)).trans (List.suffix_cons _ _)
  | case4 c r _ _ ih => exact ih.trans (List.suffix_cons c r)

theorem endUrl_suffix (address cs : List Char) : (endUrl address cs).2 <:+ cs := by
  have hdrop := List.dropWhile_suffix (l := cs) Text.isAsciiBlank
  unfold endUrl
  split
  · exact List.nil_suffix
  · rename_i r heq
    rw [heq] at hdrop
    exact (List.suffix_cons _ r).trans hdrop
  · exact (skipBadUrl_suffix _).trans hdrop

theorem readBareUrl_suffix (cs : List Char) : (readBareUrl cs).2 <:+ cs := by
  fun_induction readBareUrl cs with
  | case1 => exact List.suffix_rfl
  | case2 c r => exact List.suffix_cons c r
  | case3 c r => exact (endUrl_suffix [] r).trans (List.suffix_cons c r)
  | case4 c r => exact skipBadUrl_suffix _
  | case5 c r _ _ _ _ _ _ address rest heq ih =>
    rw [heq] at ih
    exact (ih.trans (readEscape_suffix r)).trans (List.suffix_cons c r)
  | case6 c r => exact skipBadUrl_suffix _
  | case7 c r _ _ _ _ address rest heq ih =>
    rw [heq] at ih
    exact ih.trans (List.suffix_cons c r)

theorem readUrl_suffix (cs : List Char) : (readUrl cs).2 <:+ cs := by
  have hdrop := List.dropWhile_suffix (l := cs) Text.isAsciiBlank
  unfold readUrl
  split
  · rename_i c r heq
    rw [heq] at hdrop
    have hstring := (readString_suffix c r).trans (List.suffix_cons c r)
    split
    · split
      · rename_i address rest hread
        rw [hread] at hstring
        exact (endUrl_suffix address rest).trans (hstring.trans hdrop)
      · rename_i rest hread
        rw [hread] at hstring
        exact (skipBadUrl_suffix rest).trans (hstring.trans hdrop)
    · exact (readBareUrl_suffix _).trans hdrop
  · exact List.nil_suffix

namespace Numeral

theorem readSign_suffix (cs : List Char) : (readSign cs).2 <:+ cs := by
  unfold readSign
  split
  · exact List.suffix_cons _ _
  · exact List.suffix_cons _ _
  · exact List.suffix_rfl

theorem readDigits_suffix (cs : List Char) : (readDigits cs).2 <:+ cs :=
  List.dropWhile_suffix _

theorem readFraction?_suffix {cs : List Char} {p : List Char × List Char}
    (h : readFraction? cs = some p) : p.2 <:+ cs := by
  unfold readFraction? at h
  split at h
  · rename_i r
    have hdigits := readDigits_suffix r
    split at h
    · simp at h
    · rename_i ds rest _ heq
      obtain rfl := Option.some.inj h
      rw [heq] at hdigits
      exact hdigits.trans (List.suffix_cons _ r)
  · simp at h

theorem readExponent?_suffix {cs : List Char} {p : Int × List Char}
    (h : readExponent? cs = some p) : p.2 <:+ cs := by
  unfold readExponent? at h
  split at h
  · rename_i mark r
    split at h
    · have hsign := readSign_suffix r
      have hdigits := readDigits_suffix (readSign r).2
      simp only at h
      split at h
      · simp at h
      · rename_i ds rest _ heq
        obtain rfl := Option.some.inj h
        rw [heq] at hdigits
        exact (hdigits.trans hsign).trans (List.suffix_cons mark r)
    · simp at h
  · simp at h

theorem read_suffix (cs : List Char) : (read cs).2 <:+ cs := by
  have hwhole := (readDigits_suffix (readSign cs).2).trans (readSign_suffix cs)
  have hfraction : ((readFraction? (readDigits (readSign cs).2).2).getD
      ([], (readDigits (readSign cs).2).2)).2 <:+ cs := by
    cases hf : readFraction? (readDigits (readSign cs).2).2 with
    | none => exact hwhole
    | some p => exact (readFraction?_suffix hf).trans hwhole
  simp only [read]
  split
  · rename_i e rest heq
    exact (readExponent?_suffix heq).trans hfraction
  · exact hfraction

end Numeral

theorem readNumeric_suffix (cs : List Char) : (readNumeric cs).2 <:+ cs := by
  have hread := Numeral.read_suffix cs
  have hname := (readName_suffix (Numeral.read cs).2).trans hread
  simp only [readNumeric]
  split
  · exact hname
  · split
    · rename_i r heq
      rw [heq] at hread
      exact (List.suffix_cons _ r).trans hread
    · exact hread

theorem readNamed_suffix (cs : List Char) : (readNamed cs).2 <:+ cs := by
  have hname := readName_suffix cs
  unfold readNamed
  split
  · rename_i name r heq
    rw [heq] at hname
    have hr := (List.suffix_cons _ r).trans hname
    have hurl := (readUrl_suffix r).trans hr
    simp only
    split
    · split
      · rename_i address rest hread
        rw [hread] at hurl
        exact hurl
      · rename_i rest hread
        rw [hread] at hurl
        exact hurl
    · exact hr
  · rename_i name r _ heq
    rw [heq] at hname
    exact hname

theorem readQuoted_suffix (q : Char) (cs : List Char) : (readQuoted q cs).2 <:+ cs := by
  have hstring := readString_suffix q cs
  unfold readQuoted
  split
  all_goals
    rename_i heq
    rw [heq] at hstring
    exact hstring

theorem readToken_suffix (c : Char) (r : List Char) : (readToken c r).2 <:+ c :: r := by
  have hself := List.suffix_cons c r
  have hname := (readName_suffix r).trans hself
  unfold readToken
  split
  · exact (readQuoted_suffix c r).trans hself
  split
  · split
    · exact hname
    · exact hself
  split
  · exact readNumeric_suffix _
  split
  · split
    · exact hname
    · exact hself
  split
  · exact (List.drop_suffix 2 r).trans hself
  split
  · exact (List.drop_suffix 3 r).trans hself
  split
  · exact readNamed_suffix _
  · exact hself

theorem skipComment_suffix (cs : List Char) : skipComment cs <:+ cs := by
  fun_induction skipComment cs with
  | case1 r => exact (List.suffix_cons _ r).trans (List.suffix_cons _ _)
  | case2 c r _ ih => exact ih.trans (List.suffix_cons c r)
  | case3 => exact List.suffix_rfl

theorem skipSpace_suffix (seen : Bool) (cs : List Char) : (skipSpace seen cs).2 <:+ cs := by
  fun_induction skipSpace seen cs with
  | case1 seen r _ ih =>
    exact ((ih.trans (skipComment_suffix r)).trans (List.suffix_cons _ r)).trans
      (List.suffix_cons _ _)
  | case2 seen c r _ _ ih => exact ih.trans (List.suffix_cons c r)
  | case3 => exact List.suffix_rfl
  | case4 => exact List.suffix_rfl

theorem next?_suffix {cs : List Char} {p : Token × List Char} (h : next? cs = some p) :
    p.2 <:+ cs := by
  have hskip := skipSpace_suffix false cs
  unfold next? at h
  split at h
  · rename_i rest heq
    obtain rfl := Option.some.inj h
    rw [heq] at hskip
    exact hskip
  · simp at h
  · rename_i c r heq
    obtain rfl := Option.some.inj h
    rw [heq] at hskip
    exact (readToken_suffix c r).trans hskip

/-! ### What names and strings are made of -/

theorem nul_notMem_normalize (cs : List Char) : '\x00' ∉ normalize cs := by
  fun_induction normalize cs with
  | case1 r ih => simp [ih]
  | case2 r _ ih => simp [ih]
  | case3 r ih => simp [ih]
  | case4 r ih => simp [ih]
  | case5 c r _ _ _ hc ih =>
    simp only [List.mem_cons, not_or]
    exact ⟨fun h => hc h.symm, ih⟩
  | case6 => simp

theorem charOfCode_ne_nul (n : Nat) : charOfCode n ≠ '\x00' := by
  unfold charOfCode
  split
  · decide
  · rename_i hn
    split
    · rename_i hvalid
      intro h
      have hcode : (Char.ofNat n).toNat = n := by
        rw [Char.ofNat, dif_pos hvalid]
        rfl
      exact hn (by rw [← hcode, h]; rfl)
    · decide

theorem nul_notMem_endUrl {address value cs : List Char} (h : (endUrl address cs).1 = some value)
    (haddress : '\x00' ∉ address) : '\x00' ∉ value := by
  unfold endUrl at h
  split at h
  · exact Option.some.inj h ▸ haddress
  · exact Option.some.inj h ▸ haddress
  · cases h

variable {cs : List Char} (hcs : '\x00' ∉ cs)
include hcs

theorem readEscape_ne_nul : (readEscape cs).1 ≠ '\x00' := by
  cases cs with
  | nil => decide
  | cons c r =>
    simp only [readEscape]
    split
    · exact charOfCode_ne_nul _
    · rintro rfl
      exact hcs List.mem_cons_self

theorem nul_notMem_of_suffix {l : List Char} (h : l <:+ cs) :
    '\x00' ∉ l := fun hl => hcs (h.subset hl)

theorem nul_notMem_readName : '\x00' ∉ (readName cs).1 := by
  fun_induction readName cs with
  | case1 => simp
  | case2 c r _ name rest heq ih =>
    rw [heq] at ih
    simp only [List.mem_cons, not_or] at hcs ⊢
    exact ⟨hcs.1, ih hcs.2⟩
  | case3 c r _ _ _ name rest heq ih =>
    rw [heq] at ih
    simp only [List.mem_cons, not_or] at hcs ⊢
    exact ⟨(readEscape_ne_nul hcs.2).symm, ih (nul_notMem_of_suffix hcs.2 (readEscape_suffix r))⟩
  | case4 => simp

theorem nul_notMem_readString (q : Char) {value : List Char}
    (h : (readString q cs).1 = some value) : '\x00' ∉ value := by
  fun_induction readString q cs generalizing value with
  | case1 => simp_all
  | case2 => simp_all
  | case3 => simp_all
  | case4 => simp_all
  | case5 c _ _ _ r ih => exact ih (fun hr => hcs (by simp [hr])) h
  | case6 c _ _ _ d r _ _ more rest heq ih =>
    obtain ⟨l, hl, rfl⟩ := Option.map_eq_some_iff.1 h
    have hr : '\x00' ∉ d :: r := fun hr => hcs (List.mem_cons_of_mem c hr)
    rw [heq] at ih
    simp only [List.mem_cons, not_or]
    exact ⟨(readEscape_ne_nul hr).symm, ih (nul_notMem_of_suffix hr (readEscape_suffix _)) hl⟩
  | case7 c r _ _ _ more rest heq ih =>
    obtain ⟨l, hl, rfl⟩ := Option.map_eq_some_iff.1 h
    rw [heq] at ih
    simp only [List.mem_cons, not_or] at hcs ⊢
    exact ⟨hcs.1, ih hcs.2 hl⟩

theorem nul_notMem_readBareUrl {value : List Char} (h : (readBareUrl cs).1 = some value) :
    '\x00' ∉ value := by
  fun_induction readBareUrl cs generalizing value with
  | case1 => simp_all
  | case2 => simp_all
  | case3 c r _ _ =>
    exact nul_notMem_endUrl h List.not_mem_nil
  | case4 => simp_all
  | case5 c r _ _ _ _ _ _ more rest heq ih =>
    obtain ⟨l, hl, rfl⟩ := Option.map_eq_some_iff.1 h
    have hr : '\x00' ∉ r := fun hr => hcs (List.mem_cons_of_mem c hr)
    rw [heq] at ih
    simp only [List.mem_cons, not_or]
    exact ⟨(readEscape_ne_nul hr).symm, ih (nul_notMem_of_suffix hr (readEscape_suffix r)) hl⟩
  | case6 => simp_all
  | case7 c r _ _ _ _ more rest heq ih =>
    obtain ⟨l, hl, rfl⟩ := Option.map_eq_some_iff.1 h
    rw [heq] at ih
    simp only [List.mem_cons, not_or] at hcs ⊢
    exact ⟨hcs.1, ih hcs.2 hl⟩

theorem nul_notMem_readUrl {value : List Char} (h : (readUrl cs).1 = some value) :
    '\x00' ∉ value := by
  have hdrop := nul_notMem_of_suffix hcs (List.dropWhile_suffix Text.isAsciiBlank)
  unfold readUrl at h
  split at h
  · rename_i c r heq
    rw [heq] at hdrop
    have hr : '\x00' ∉ r := fun hr => hdrop (List.mem_cons_of_mem c hr)
    split at h
    · split at h
      · rename_i address rest hread
        have hrest : '\x00' ∉ rest := by
          have := nul_notMem_of_suffix hr (readString_suffix c r)
          rwa [hread] at this
        exact nul_notMem_endUrl h (nul_notMem_readString hr c (by rw [hread]))
      · cases h
    · exact nul_notMem_readBareUrl hdrop h
  · exact Option.some.inj h ▸ List.not_mem_nil

omit hcs

/-! ### Characters that are tokens -/

/-- Whether a character can be a token of its own, and starts no other token whatever follows. -/
structure IsLone (c : Char) : Prop where
  single_eq : single c = .delim c
  notNameStart : isNameStart c = false
  notDigit : c.isDigit = false
  notBlank : Text.isAsciiBlank c = false
  notQuote : c ≠ '"' ∧ c ≠ '\''
  isNormal : IsNormal c

theorem starts_of_isDigit (h : c.isDigit) (r : List Char) : Numeral.starts (c :: r) := by
  have hne : ∀ d : Char, d.isDigit = false → c ≠ d := by
    rintro d hd rfl
    simp [hd] at h
  have hsign : Numeral.readSign (c :: r) = (none, c :: r) := by
    simp [Numeral.readSign, hne '+' (by decide), hne '-' (by decide)]
  simpa [Numeral.starts, hsign, hne '.' (by decide)] using h

theorem isNormal_of_not_isAsciiBlank (hb : Text.isAsciiBlank c = false) (hnul : c ≠ '\x00') :
    IsNormal c := by
  refine ⟨?_, ?_, hnul⟩ <;>
  · rintro rfl
    exact absurd hb (by decide)

theorem skipSpace_not_blank {seen seen' : Bool} {cs : List Char}
    (h : skipSpace seen cs = (seen', c :: r)) : Text.isAsciiBlank c = false := by
  fun_induction skipSpace seen cs with
  | case1 seen r _ ih => exact ih h
  | case2 seen c r _ _ ih => exact ih h
  | case3 seen d r _ hb =>
    obtain ⟨rfl, -⟩ := List.cons.inj (Prod.mk.inj h).2
    simpa using hb
  | case4 => simp at h

/-! ### Tokens -/

/-- What holds of tokens that were read. -/
def Token.IsProper : Token → Prop
  | .ident s | .atKeyword s | .hash s _ => s ≠ "" ∧ '\x00' ∉ s.toList
  | .function s => (s ≠ "" ∧ '\x00' ∉ s.toList) ∧ Text.sameIgnoringCase s "url" = false
  | .string s | .url s => '\x00' ∉ s.toList
  | .delim c => IsLone c
  | _ => True

theorem isProper_single (hname : isNameStart c = false) (hdigit : c.isDigit = false)
    (hb : Text.isAsciiBlank c = false) (hquote : c ≠ '"' ∧ c ≠ '\'') (hnul : c ≠ '\x00') :
    (single c).IsProper := by
  have hsingle : single c = .delim c → IsLone c := fun h =>
    ⟨h, hname, hdigit, hb, hquote, isNormal_of_not_isAsciiBlank hb hnul⟩
  generalize ht : single c = t at hsingle
  unfold single at ht
  split at ht
  all_goals first
    | (subst ht; trivial)
    | (subst ht; exact hsingle rfl)

theorem readName_ne_nil_of_continues {cs : List Char}
    (h : cs.head?.any isNameChar || startsEscape cs) : (readName cs).1 ≠ [] := by
  cases cs with
  | nil => simp [startsEscape] at h
  | cons c r =>
    rw [readName]
    split
    · simp
    · rename_i hc
      have hescape : startsEscape (c :: r) := by simpa [hc] using h
      simp [hescape]

theorem readName_ne_nil {cs : List Char} (h : startsName cs) : (readName cs).1 ≠ [] := by
  cases cs with
  | nil => simp [startsName] at h
  | cons c r =>
    refine readName_ne_nil_of_continues ?_
    rcases (startsName_head h).2.2 with hc | hc
    · simp [hc]
    · simp [hc]

theorem isProper_name {cs : List Char} (hne : (readName cs).1 ≠ []) (hcs : '\x00' ∉ cs) :
    String.ofList (readName cs).1 ≠ "" ∧ '\x00' ∉ (String.ofList (readName cs).1).toList := by
  refine ⟨fun heq => hne ?_, ?_⟩
  · simpa using congrArg String.toList heq
  · rw [String.toList_ofList]
    exact nul_notMem_readName hcs

theorem isProper_readNamed {cs : List Char} (hstart : startsName cs) (hcs : '\x00' ∉ cs) :
    (readNamed cs).1.IsProper := by
  have hname := isProper_name (readName_ne_nil hstart) hcs
  unfold readNamed
  split
  · rename_i name r heq
    have hr : '\x00' ∉ r := by
      have := nul_notMem_of_suffix hcs (readName_suffix cs)
      rw [heq] at this
      exact fun hr => this (List.mem_cons_of_mem _ hr)
    rw [heq] at hname
    simp only
    split
    · split
      · rename_i address rest hread
        have haddress := nul_notMem_readUrl hr (by rw [hread])
        simpa [Token.IsProper] using haddress
      · trivial
    · rename_i hurl
      exact ⟨hname, by simpa using hurl⟩
  · rename_i name rest _ heq
    rw [heq] at hname
    exact hname

theorem isProper_readToken (hb : Text.isAsciiBlank c = false) (h : '\x00' ∉ c :: r) :
    (readToken c r).1.IsProper := by
  have hr : '\x00' ∉ r := fun hr => h (List.mem_cons_of_mem c hr)
  have hnul : c ≠ '\x00' := fun hc => h (hc ▸ List.mem_cons_self)
  unfold readToken
  split
  · unfold readQuoted
    split
    · rename_i value rest heq
      have hvalue : '\x00' ∉ value := nul_notMem_readString hr c (by rw [heq])
      simpa [Token.IsProper] using hvalue
    · trivial
  rename_i hquote
  have hquote : c ≠ '"' ∧ c ≠ '\'' := by simpa using hquote
  split
  · rename_i hc
    obtain rfl : c = '#' := by simpa using hc
    split
    · rename_i hcontinues
      exact isProper_name (readName_ne_nil_of_continues hcontinues) hr
    · exact isProper_single (by decide) (by decide) hb hquote hnul
  split
  · simp only [readNumeric]
    split
    · trivial
    · split <;> trivial
  rename_i hstarts
  split
  · rename_i hc
    obtain rfl : c = '@' := by simpa using hc
    split
    · rename_i hstart
      exact isProper_name (readName_ne_nil hstart) hr
    · exact isProper_single (by decide) (by decide) hb hquote hnul
  split
  · trivial
  split
  · trivial
  split
  · rename_i hstart
    exact isProper_readNamed hstart h
  · rename_i hstart
    refine isProper_single (Bool.eq_false_iff.2 fun hname => hstart (startsName_cons hname))
      (Bool.eq_false_iff.2 fun hdigit => hstarts (starts_of_isDigit hdigit r)) hb hquote hnul

theorem isProper_tokens {cs : List Char} (h : '\x00' ∉ cs) : ∀ t ∈ tokens cs, t.IsProper := by
  fun_induction tokens cs with
  | case1 => simp
  | case2 cs t rest hnext hlt ih =>
    have hskip := nul_notMem_of_suffix h (skipSpace_suffix false cs)
    have hrest := nul_notMem_of_suffix h (next?_suffix hnext)
    have ht : t.IsProper := by
      unfold next? at hnext
      split at hnext
      · obtain ⟨rfl, -⟩ := Prod.mk.inj (Option.some.inj hnext)
        trivial
      · simp at hnext
      · rename_i c r heq
        have hb := skipSpace_not_blank heq
        rw [heq] at hskip
        have := isProper_readToken hb hskip
        rwa [Option.some.inj hnext] at this
    intro u hu
    rcases List.mem_cons.1 hu with rfl | hu
    · exact ht
    · exact ih hrest u hu

theorem isProper_tokenize (text : String) : ∀ t ∈ tokenize text, t.IsProper :=
  isProper_tokens (nul_notMem_normalize _)

/-! ### Parentheses -/

variable {name : String}

theorem single_ne_function (c : Char) (name : String) : single c ≠ .function name := by
  unfold single
  split <;> simp

theorem paren_mem_of_readNamed (h : (readNamed cs).1 = .function name) : '(' ∈ cs := by
  unfold readNamed at h
  split at h
  · rename_i n u heq
    have hsuffix := readName_suffix cs
    rw [heq] at hsuffix
    exact hsuffix.subset List.mem_cons_self
  · cases h

theorem paren_mem_of_readToken (h : (readToken c r).1 = .function name) : '(' ∈ c :: r := by
  have hquoted : ∀ q cs, (readQuoted q cs).1 ≠ .function name := by
    intro q cs
    unfold readQuoted
    split <;> simp
  have hnumeric : ∀ cs, (readNumeric cs).1 ≠ .function name := by
    intro cs
    simp only [readNumeric]
    split
    · simp
    · split <;> simp
  unfold readToken at h
  split at h
  · exact absurd h (hquoted _ _)
  split at h
  · split at h
    · cases h
    · exact absurd h (single_ne_function _ _)
  split at h
  · exact absurd h (hnumeric _)
  split at h
  · split at h
    · cases h
    · exact absurd h (single_ne_function _ _)
  split at h
  · cases h
  split at h
  · cases h
  split at h
  · exact paren_mem_of_readNamed h
  · exact absurd h (single_ne_function _ _)

/-- A function stands before a parenthesis. -/
theorem paren_mem_of_function_mem (h : .function name ∈ tokens cs) : '(' ∈ cs := by
  fun_induction tokens cs with
  | case1 => cases h
  | case2 cs t rest hnext hlt ih =>
    rcases List.mem_cons.1 h with rfl | h
    · have hskip := skipSpace_suffix false cs
      unfold next? at hnext
      split at hnext
      · cases hnext
      · cases hnext
      · rename_i c r heq
        rw [heq] at hskip
        exact hskip.subset (paren_mem_of_readToken (congrArg Prod.fst (Option.some.inj hnext)))
    · exact (next?_suffix hnext).subset (ih h)

theorem paren_mem_of_mem_normalize (h : '(' ∈ normalize cs) : '(' ∈ cs := by
  fun_induction normalize cs <;> simp_all
  rename_i ih
  exact h.imp_right ih

/-- A text without parentheses has no functions. -/
theorem function_notMem_tokenize {text : String} (h : '(' ∉ text.toList) (name : String) :
    .function name ∉ tokenize text :=
  fun hf => h (paren_mem_of_mem_normalize (paren_mem_of_function_mem hf))

end WebStyle
