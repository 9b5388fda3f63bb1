import WebStyle.Proofs.Token.Adjacent
/-!
The canonical text of a run of tokens, read again. Blanks at its end are cut off, which may cut into
the last token, and tokens that had a comment between them stand side by side; where neither does
harm, the tokens are read back.
-/
set_option autoImplicit false

namespace WebStyle

open Lexer

variable {c : Char} {r s : List Char} {t : Token} {ts : List Token} {last : Option Char}
  {owed : Bool}

/-! ### Blanks that are cut off -/

namespace Printer

/-- A text without the blanks at its end. -/
abbrev trimEnd (cs : List Char) : List Char := cs.rdropWhile Text.isBlank

theorem trimEnd_append (cs r : List Char) :
    trimEnd (cs ++ r) = if trimEnd r = [] then trimEnd cs else cs ++ trimEnd r := by
  simp only [trimEnd, List.rdropWhile, List.reverse_append, List.dropWhile_append,
    List.isEmpty_iff, List.reverse_eq_nil_iff]
  split
  · rfl
  · rw [List.reverse_append, List.reverse_reverse]

theorem trimEnd_cons_of_not_isBlank (hc : Text.isBlank c = false) (r : List Char) :
    trimEnd (c :: r) = c :: trimEnd r := by
  rw [← List.singleton_append, trimEnd_append]
  split
  · rename_i h
    simp [h, List.rdropWhile, hc]
  · rfl

end Printer

theorem forms_trimEnd_blank_cons (cs : List Char) :
    forms (tokens (Printer.trimEnd (' ' :: cs))) = forms (tokens (Printer.trimEnd cs)) := by
  rw [← List.singleton_append, Printer.trimEnd_append]
  split
  · rename_i h
    rw [h]
    rfl
  · exact forms_blank_cons _

/-! ### Names whose last blank is cut off -/

theorem takeWhile_append_blank (l : List Char) :
    (l ++ [' ']).takeWhile Text.isHexDigit = l.takeWhile Text.isHexDigit := by
  induction l with
  | nil => decide
  | cons c l ih => simp only [List.cons_append, List.takeWhile_cons, ih]

theorem readEscape_append_blank (hne : r ≠ []) :
    (readEscape (r ++ [' '])).1 = (readEscape r).1 ∧
      ((readEscape (r ++ [' '])).2 = (readEscape r).2 ++ [' '] ∨
        (readEscape (r ++ [' '])).2 = [] ∧ (readEscape r).2 = []) := by
  cases r with
  | nil => exact absurd rfl hne
  | cons c r =>
    simp only [List.cons_append, readEscape]
    split
    · have hmore : ((r ++ [' ']).take 5).takeWhile Text.isHexDigit =
          (r.take 5).takeWhile Text.isHexDigit := by
        rw [List.take_append]
        rcases Nat.eq_zero_or_pos (5 - r.length) with h | h
        · rw [h, List.take_zero, List.append_nil]
        · rw [List.take_of_length_le (l := [' ']) h]
          exact takeWhile_append_blank _
      have hle : ((r.take 5).takeWhile Text.isHexDigit).length ≤ r.length :=
        (List.takeWhile_sublist _).length_le.trans (List.length_take_le' 5 r)
      refine ⟨by rw [hmore], ?_⟩
      simp only [hmore, List.drop_append_of_le_length hle]
      cases hdrop : r.drop ((r.take 5).takeWhile Text.isHexDigit).length with
      | nil => exact .inr ⟨rfl, rfl⟩
      | cons d l =>
        left
        simp only [List.cons_append, skipOneBlank]
        split <;> rfl
    · exact ⟨rfl, .inl rfl⟩

/-- A name that is read to its end is read without its last blank as well, unless that blank is
escaped itself. -/
theorem readName_of_append_blank {cs name : List Char} (h : readName (cs ++ [' ']) = (name, []))
    (hlast : cs.getLast? ≠ some '\\') : readName cs = (name, []) := by
  have hblank : readName [' '] = ([], [' ']) := EndsName.readName (by rintro c ⟨⟩; decide)
  induction hlen : cs.length using Nat.strongRecOn generalizing cs name with
  | _ n ih =>
    cases cs with
    | nil => simp [hblank] at h
    | cons c r =>
      have hlast' : ∀ {l : List Char}, l <:+ r → l.getLast? ≠ some '\\' := by
        rintro l ⟨u, rfl⟩ heq
        rw [← List.cons_append, List.getLast?_append, heq] at hlast
        exact hlast rfl
      rw [List.cons_append, readName] at h
      rw [readName]
      split at h
      · rename_i hc
        rw [if_pos hc]
        obtain ⟨hname, hrest⟩ := Prod.mk.inj h
        have hread := ih r.length (by simp [← hlen]) (Prod.ext rfl hrest)
          (hlast' List.suffix_rfl) rfl
        rw [hread, ← hname]
      rename_i hc
      split at h
      · rename_i hescape
        obtain rfl : c = '\\' := by
          unfold startsEscape at hescape
          split at hescape
          · rename_i heq
            exact (List.cons.inj heq).1
          · simp at hescape
        have hr : r ≠ [] := by
          rintro rfl
          exact hlast rfl
        have hescape' : startsEscape ('\\' :: r) := by
          cases r with
          | nil => exact absurd rfl hr
          | cons d r => exact hescape
        rw [if_neg hc, if_pos hescape']
        obtain ⟨hname, hrest⟩ := Prod.mk.inj h
        obtain ⟨hchar, hcut | ⟨hcut, hcut'⟩⟩ := readEscape_append_blank hr
        · rw [hcut] at hname hrest
          have hread := ih (readEscape r).2.length
            (by have := readEscape_length_le r; simp only [List.length_cons] at hlen; omega)
            (Prod.ext rfl hrest) (hlast' (readEscape_suffix r)) rfl
          rw [hread, ← hname, hchar]
        · rw [hcut] at hname
          rw [hcut', ← hname, hchar, readName]
      · simp at h

theorem startsEscape_cases (h : startsEscape r) : ∃ c l, r = '\\' :: c :: l ∧ c ≠ '\n' := by
  unfold startsEscape at h
  split at h
  · exact ⟨_, _, rfl, by simpa using h⟩
  · simp at h

theorem startsEscape_of_append_blank {cs : List Char} (h : startsEscape (cs ++ [' ']))
    (hlast : cs.getLast? ≠ some '\\') : startsEscape cs := by
  obtain ⟨d, l, heq, hd⟩ := startsEscape_cases h
  match cs, heq, hlast with
  | [c], heq, hlast => exact absurd (congrArg some (List.cons.inj heq).1) hlast
  | c :: d' :: r, heq, _ =>
    simp only [List.cons_append, List.cons.injEq] at heq
    obtain ⟨rfl, rfl, -⟩ := heq
    simpa [startsEscape] using hd

theorem continuesName_of_append_blank {cs : List Char} (h : continuesName (cs ++ [' ']))
    (hlast : cs.getLast? ≠ some '\\') : continuesName cs := by
  rcases Bool.or_eq_true_iff.1 h with h | h
  · cases cs with
    | nil => exact absurd h (by decide)
    | cons c r => exact Bool.or_eq_true_iff.2 (.inl h)
  · exact Bool.or_eq_true_iff.2 (.inr (startsEscape_of_append_blank h hlast))

theorem startsName_of_append_blank {cs : List Char} (h : startsName (cs ++ [' ']))
    (hlast : cs.getLast? ≠ some '\\') : startsName cs := by
  fun_cases startsName cs with
  | case1 => rfl
  | case2 => exact startsEscape_of_append_blank h (by simpa using hlast)
  | case3 c r hminus hslash => simpa [startsName, hminus, hslash] using h
  | case4 => exact absurd h (by decide)
  | case5 => exact startsEscape_of_append_blank h hlast
  | case6 c r hminus hslash => simpa [startsName, hminus, hslash] using h
  | case7 => exact absurd h (by decide)

/-! ### Tokens at the end of a text -/

namespace Printer

/-- Whether cutting off the blanks at the end of a token's text does no harm: there are none, or
the one that ends an escape. -/
def cutsSafely (cs : List Char) : Bool :=
  cs == trimEnd cs || (cs == trimEnd cs ++ [' '] && (trimEnd cs).getLast? != some '\\')

end Printer

/-- Only names end in a blank. -/
theorem getLast?_chars (hproper : t.IsProper) (hwritable : t.isWritable)
    (hblank : t.isBlank = false) (hlast : t.chars.getLast? = some ' ') :
    (∃ name, t = .ident name) ∨ (∃ name, t = .atKeyword name) ∨
      ∃ name isId, t = .hash name isId := by
  cases t with
  | ident name => exact .inl ⟨name, rfl⟩
  | atKeyword name => exact .inr (.inl ⟨name, rfl⟩)
  | hash name isId => exact .inr (.inr ⟨name, isId, rfl⟩)
  | number n =>
    have hmem : ' ' ∈ n.text.toList := List.mem_of_getLast? hlast
    exact absurd (Numeral.cases_of_mem_text hmem) (by decide)
  | dimension n unit =>
    simp only [Token.isWritable, Bool.and_eq_true, List.all_eq_true] at hwritable
    have hunit : unit.toList ≠ [] := fun h => by simp [h, startsName] at hwritable
    rw [Token.chars, List.getLast?_append_of_ne_nil _ hunit] at hlast
    exact absurd (hwritable.2 ' ' (List.mem_of_getLast? hlast)) (by decide)
  | delim c =>
    obtain rfl : c = ' ' := by simpa [Token.chars] using hlast
    exact absurd hproper.notBlank (by decide)
  | blank => cases hblank
  | badString | badUrl => cases hwritable
  | string value =>
    rw [Token.chars, Printer.string, List.getLast?_concat] at hlast
    exact absurd (Option.some.inj hlast) (by decide)
  | url address =>
    rw [Token.chars, List.getLast?_concat] at hlast
    exact absurd (Option.some.inj hlast) (by decide)
  | _ => simp [Token.chars] at hlast

/-- A name at the end of a text, without its last blank. -/
theorem read_name_cut {cs : List Char} (hs : '\x00' ∉ s) (hne : s ≠ [])
    (heq : Printer.name s = cs ++ [' ']) (hlast : cs.getLast? ≠ some '\\') :
    startsName cs ∧ readName cs = (s, []) := by
  have hstart := startsName_printed hs hne []
  have hread := readName_printed hs (readName_eq_nil (r := []) rfl)
  rw [List.append_nil, heq] at hstart hread
  exact ⟨startsName_of_append_blank hstart hlast, readName_of_append_blank hread hlast⟩

/-- A token at the end of a text, without its last blank. -/
theorem readsAs_cut {cs : List Char} (hproper : t.IsProper) (hwritable : t.isWritable)
    (hblank : t.isBlank = false) (heq : t.chars = cs ++ [' ']) (hlast : cs.getLast? ≠ some '\\') :
    ReadsAs cs t [] := by
  have hmark : ∀ {d : Char} {l : List Char}, d ≠ ' ' → d :: l = cs ++ [' '] →
      ∃ r, cs = d :: r ∧ l = r ++ [' '] ∧ r.getLast? ≠ some '\\' := by
    intro d l hd heq
    cases cs with
    | nil => exact absurd (List.cons.inj heq).1 hd
    | cons e r =>
      obtain ⟨rfl, rfl⟩ := List.cons.inj heq
      refine ⟨r, rfl, rfl, fun h => hlast ?_⟩
      rw [← List.singleton_append, List.getLast?_append, h]
      rfl
  rcases getLast?_chars hproper hwritable hblank (by rw [heq, List.getLast?_concat]) with
    ⟨name, rfl⟩ | ⟨name, rfl⟩ | ⟨name, isId, rfl⟩
  · obtain ⟨hstart, hread⟩ := read_name_cut hproper.2 (toList_ne_nil hproper.1) heq hlast
    have := tokens_of_next? (next?_ident hstart hread (by simp) (by simp))
    exact .of_eq rfl (by rwa [String.ofList_toList] at this)
  · obtain ⟨r, rfl, heq, hlast⟩ := hmark (by decide) heq
    obtain ⟨hstart, hread⟩ := read_name_cut hproper.2 (toList_ne_nil hproper.1) heq hlast
    have := tokens_atKeyword hstart hread
    exact .of_eq rfl (by rwa [String.ofList_toList] at this)
  · obtain ⟨r, rfl, heq, hlast⟩ := hmark (by decide) heq
    have hcontinues :=
      continuesName_hashChars (lineEnd_notMem hwritable) (toList_ne_nil hproper.1) []
    have hread := readName_hashChars (lineEnd_notMem hwritable) (readName_eq_nil (r := []) rfl)
    rw [List.append_nil, heq] at hcontinues hread
    have := readsAs_of_continuesName (continuesName_of_append_blank hcontinues hlast)
      (readName_of_append_blank hread hlast) isId
    rwa [String.ofList_toList] at this

/-- A token at the end of a text, whose last blank may be cut off. -/
theorem readsAs_trimEnd (hproper : t.IsProper) (hwritable : t.isWritable)
    (hblank : t.isBlank = false) (hr : t.clings [] = false) (hcut : Printer.cutsSafely t.chars) :
    ReadsAs (Printer.trimEnd t.chars) t [] := by
  rw [Printer.cutsSafely, Bool.or_eq_true, Bool.and_eq_true, beq_iff_eq, beq_iff_eq,
    bne_iff_ne] at hcut
  rcases hcut with heq | ⟨heq, hlast⟩
  · have := readsAs_chars hproper hwritable hblank hr
    rwa [List.append_nil, heq] at this
  · exact readsAs_cut hproper hwritable hblank heq hlast

theorem forms_trimEnd_append (hproper : t.IsProper) (hwritable : t.isWritable)
    (hblank : t.isBlank = false) (hr : t.clings (Printer.trimEnd r) = false)
    (hcut : Printer.trimEnd r ≠ [] ∨ Printer.cutsSafely t.chars) :
    forms (tokens (Printer.trimEnd (t.chars ++ r))) =
      t.form :: forms (tokens (Printer.trimEnd r)) := by
  rw [Printer.trimEnd_append]
  split
  · rename_i hrest
    rw [hrest] at hr ⊢
    exact (readsAs_trimEnd hproper hwritable hblank hr (hcut.resolve_left (absurd hrest))).forms
  · exact (readsAs_chars hproper hwritable hblank hr).forms

/-! ### Runs of tokens -/

namespace Printer

/-- The text of a token after a text that ends with `last`, with the blank before it if one is
owed. -/
def spaced (last : Option Char) (owed : Bool) (t : Token) : List Char :=
  if owed && last != some '(' && last != some ' ' then ' ' :: t.chars else t.chars

theorem spaced_eq (last : Option Char) (owed : Bool) (t : Token) :
    spaced last owed t = ' ' :: t.chars ∨ spaced last owed t = t.chars := ite_eq_or_eq _ _ _

theorem run_cons (hblank : t ≠ .blank) (hcomma : t ≠ .comma) (hparen : t ≠ .closeParen)
    (last : Option Char) (owed : Bool) (ts : List Token) :
    run last owed (t :: ts) =
      spaced last owed t ++ run ((spaced last owed t).getLast?.or last) false ts := by
  rw [run]
  · rfl
  · exact hblank
  · exact hcomma
  · exact hparen

/-- Whether printing tokens after a text that ends with `last` keeps them apart: nothing clings to
one, and what is cut off at the end of the text is no part of any. -/
def keeps (last : Option Char) (owed : Bool) : List Token → Bool
  | [] => true
  | .blank :: ts => keeps last last.isSome ts
  | .comma :: ts => keeps (some ' ') false ts
  | .closeParen :: ts => keeps (some ')') false ts
  | t :: ts =>
    let last := (spaced last owed t).getLast?.or last
    let rest := trimEnd (run last false ts)
    t.isWritable && !t.clings rest && (!rest.isEmpty || cutsSafely t.chars) && keeps last false ts

end Printer

/-- Tokens that are kept apart are read back from their text. -/
theorem forms_run (hproper : ∀ t ∈ ts, t.IsProper) (h : Printer.keeps last owed ts) :
    forms (tokens (Printer.trimEnd (Printer.run last owed ts))) = forms ts := by
  fun_induction Printer.keeps last owed ts with
  | case1 => exact congrArg forms tokens_nil
  | case2 last owed ts ih =>
    rw [Printer.run, forms_blank]
    exact ih (fun t ht => hproper t (List.mem_cons_of_mem _ ht)) h
  | case3 last owed ts ih =>
    have ih := ih (fun t ht => hproper t (List.mem_cons_of_mem _ ht)) h
    rw [Printer.run, Printer.trimEnd_cons_of_not_isBlank (by decide), tokens_single (by decide),
      forms_cons rfl, forms_cons rfl, forms_trimEnd_blank_cons, ih]
    rfl
  | case4 last owed ts ih =>
    have ih := ih (fun t ht => hproper t (List.mem_cons_of_mem _ ht)) h
    rw [Printer.run, Printer.trimEnd_cons_of_not_isBlank (by decide), tokens_single (by decide),
      forms_cons rfl, forms_cons rfl, ih]
    rfl
  | case5 last owed t ts hblank hcomma hparen last' rest ih =>
    simp only [Bool.and_eq_true, Bool.not_eq_true', Bool.or_eq_true, List.isEmpty_eq_false_iff] at h
    obtain ⟨⟨⟨hwritable, hclings⟩, hcut⟩, hkeeps⟩ := h
    have ih := ih (fun t ht => hproper t (List.mem_cons_of_mem _ ht)) hkeeps
    have hblank' : t.isBlank = false := by
      cases t with
      | blank => exact (hblank rfl).elim
      | _ => rfl
    have hread := forms_trimEnd_append (hproper t List.mem_cons_self) hwritable hblank' hclings hcut
    rw [Printer.run_cons hblank hcomma hparen, forms_cons hblank', ← ih, ← hread]
    change forms (tokens (Printer.trimEnd (_ ++ Printer.run last' false ts))) = _
    rcases Printer.spaced_eq last owed t with heq | heq
    · rw [heq, List.cons_append, forms_trimEnd_blank_cons]
    · rw [heq]

/-! ### Texts -/

theorem isNormal_hashChars (hs : '\x00' ∉ s)
    (hline : ∀ c ∈ s, c ≠ '\n' ∧ c ≠ '\r' ∧ c ≠ '\x0C') :
    ∀ c ∈ s.flatMap Printer.hashChar, IsNormal c := by
  intro c hc
  obtain ⟨d, hd, hmem⟩ := List.mem_flatMap.1 hc
  have hchar : c = '\\' ∨ c = d := by
    unfold Printer.hashChar at hmem
    split at hmem
    · exact .inr (List.mem_singleton.1 hmem)
    · exact (List.mem_cons.1 hmem).imp id List.mem_singleton.1
  rcases hchar with rfl | rfl
  · decide
  · exact ⟨(hline c hd).2.1, (hline c hd).2.2, fun hnul => hs (hnul ▸ hd)⟩

theorem isNormal_numeral {n : Numeral} : ∀ c ∈ n.text.toList, IsNormal c := by
  intro c hc
  rcases Numeral.cases_of_mem_text hc with rfl | rfl | hdigit
  · decide
  · decide
  · exact isNormal_of_isNameChar (by simp [isNameChar, hdigit])

theorem isNormal_chars (hproper : t.IsProper) (hwritable : t.isWritable) :
    ∀ c ∈ t.chars, IsNormal c := by
  have hmark : ∀ cs : List Char, cs.all (IsNormal ·) → ∀ c ∈ cs, IsNormal c := fun _ h c hc =>
    of_decide_eq_true (List.all_eq_true.1 h c hc)
  cases t with
  | ident name => exact fun c hc => isNormal_name hc
  | function name =>
    exact List.forall_mem_append.2 ⟨fun c hc => isNormal_name hc, hmark _ (by decide)⟩
  | atKeyword name =>
    exact List.forall_mem_cons.2 ⟨by decide, fun c hc => isNormal_name hc⟩
  | hash name isId =>
    refine List.forall_mem_cons.2 ⟨by decide, isNormal_hashChars hproper.2 fun c hc => ?_⟩
    simpa [and_assoc] using List.all_eq_true.1 hwritable c hc
  | string value => exact fun c hc => isNormal_string hc
  | url address =>
    exact List.forall_mem_append.2
      ⟨List.forall_mem_append.2 ⟨hmark _ (by decide), fun c hc => isNormal_string hc⟩,
        hmark _ (by decide)⟩
  | number n => exact isNormal_numeral
  | percentage n => exact List.forall_mem_append.2 ⟨isNormal_numeral, hmark _ (by decide)⟩
  | dimension n unit =>
    simp only [Token.isWritable, Bool.and_eq_true, List.all_eq_true] at hwritable
    exact List.forall_mem_append.2
      ⟨isNormal_numeral, fun c hc => isNormal_of_isNameChar (hwritable.2 c hc)⟩
  | delim c => exact List.forall_mem_singleton.2 hproper.isNormal
  | badString | badUrl => cases hwritable
  | _ => exact hmark _ (by decide)

theorem isNormal_run (hproper : ∀ t ∈ ts, t.IsProper) (h : Printer.keeps last owed ts) :
    ∀ c ∈ Printer.run last owed ts, IsNormal c := by
  fun_induction Printer.keeps last owed ts with
  | case1 => simp [Printer.run]
  | case2 last owed ts ih =>
    rw [Printer.run]
    exact ih (fun t ht => hproper t (List.mem_cons_of_mem _ ht)) h
  | case3 last owed ts ih =>
    have ih := ih (fun t ht => hproper t (List.mem_cons_of_mem _ ht)) h
    rw [Printer.run]
    exact List.forall_mem_cons.2 ⟨by decide, List.forall_mem_cons.2 ⟨by decide, ih⟩⟩
  | case4 last owed ts ih =>
    have ih := ih (fun t ht => hproper t (List.mem_cons_of_mem _ ht)) h
    rw [Printer.run]
    exact List.forall_mem_cons.2 ⟨by decide, ih⟩
  | case5 last owed t ts hblank hcomma hparen last' rest ih =>
    simp only [Bool.and_eq_true] at h
    have ih := ih (fun t ht => hproper t (List.mem_cons_of_mem _ ht)) h.2
    have hchars := isNormal_chars (hproper t List.mem_cons_self) h.1.1.1
    rw [Printer.run_cons hblank hcomma hparen]
    refine List.forall_mem_append.2 ⟨?_, ih⟩
    rcases Printer.spaced_eq last owed t with heq | heq
    · exact heq ▸ List.forall_mem_cons.2 ⟨by decide, hchars⟩
    · exact heq ▸ hchars

/-- The canonical text of tokens that were read is read back to the same tokens, if they are kept
apart in it. -/
theorem forms_tokenize_tokensText (text : String)
    (h : Printer.keeps none false (tokenize text)) :
    forms (tokenize (tokensText (tokenize text))) = forms (tokenize text) := by
  have hproper := isProper_tokenize text
  have hnormal : normalize (Printer.trimEnd (Printer.run none false (tokenize text))) =
      Printer.trimEnd (Printer.run none false (tokenize text)) :=
    normalize_of_isNormal fun c hc =>
      isNormal_run hproper h c ((List.rdropWhile_prefix _ _).subset hc)
  rw [tokensText, tokenize, String.toList_ofList]
  change forms (tokens (normalize (Printer.trimEnd _))) = _
  rw [hnormal, forms_run hproper h]

theorem forms_tokenize_tokensText_background :
    Printer.keeps none false (tokenize "url(a.png) 50% rgb( 255 ,0,0 ) \\31 ") ∧
      forms (tokenize (tokensText (tokenize "url(a.png) 50% rgb( 255 ,0,0 ) \\31 "))) =
        forms (tokenize "url(a.png) 50% rgb( 255 ,0,0 ) \\31 ") :=
  ⟨by decide +kernel, forms_tokenize_tokensText _ (by decide +kernel)⟩

/-- Names that only a comment keeps apart are printed as one name. -/
theorem not_forms_tokenize_tokensText :
    ¬ ∀ text, (∀ t ∈ tokenize text, t.isBad = false) →
      forms (tokenize (tokensText (tokenize text))) = forms (tokenize text) := fun h =>
  absurd (h "a/**/b" (by decide +kernel)) (by decide +kernel)

/-- Units are printed without the escapes that names have. -/
example : tokensText (tokenize "1\\65 3") = "1e3" := by decide +kernel

end WebStyle
