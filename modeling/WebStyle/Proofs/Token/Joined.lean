import Mathlib.Tactic.SplitIfs
import WebStyle.Proofs.Sequence
import WebStyle.Proofs.Token.Divided
import WebStyle.Value.Component
/-!
Texts that are joined with blanks. In a text without escapes, strings and comments, a blank ends
what stands before it, so that such texts are the components of the text that they are joined to.
-/
set_option autoImplicit false

namespace WebStyle

open Lexer

variable {c : Char} {cs : List Char} {t : Token}

/-- Characters that make no escape, string or comment, and are read as they are. -/
def IsInert (c : Char) : Prop := c ∉ ['\\', '"', '\'', '*', '\r', '\x0C', '\x00']

instance : DecidablePred IsInert := fun _ => inferInstanceAs (Decidable (_ ∉ _))

theorem IsInert.isNormal (h : IsInert c) : IsNormal c := by
  simp only [IsInert, List.mem_cons, List.not_mem_nil, or_false, not_or] at h
  exact ⟨h.2.2.2.2.1, h.2.2.2.2.2.1, h.2.2.2.2.2.2⟩

theorem backslash_notMem (h : ∀ c ∈ cs, IsInert c) : '\\' ∉ cs := fun hmem =>
  absurd (h _ hmem) (by decide)

/-! ### What a blank ends -/

section

variable (hcs : '\\' ∉ cs) (r : List Char)
include hcs

theorem readName_append_blank :
    readName (cs ++ ' ' :: r) = ((readName cs).1, (readName cs).2 ++ ' ' :: r) := by
  induction cs with
  | nil =>
    have hends : EndsName (' ' :: r) := by
      rintro c ⟨⟩
      decide
    rw [List.nil_append, hends.readName, readName]
    rfl
  | cons c cs ih =>
    simp only [List.mem_cons, not_or] at hcs
    rw [List.cons_append]
    cases hc : isNameChar c with
    | true => rw [readName_cons hc, readName_cons hc, ih hcs.2]
    | false =>
      have hends : ∀ l, EndsName (c :: l) := by
        rintro l _ ⟨⟩
        exact ⟨hc, Ne.symm hcs.1⟩
      rw [(hends _).readName, (hends _).readName, List.cons_append]

theorem startsEscape_append_blank : startsEscape (cs ++ ' ' :: r) = false := by
  cases cs with
  | nil => rfl
  | cons c cs =>
    simp only [List.mem_cons, not_or] at hcs
    simp [startsEscape, Ne.symm hcs.1]

theorem startsEscape_eq_false : startsEscape cs = false := by
  cases cs with
  | nil => rfl
  | cons c cs =>
    simp only [List.mem_cons, not_or] at hcs
    simp [startsEscape, Ne.symm hcs.1]

theorem getLast?_ne_backslash : cs.getLast? ≠ some '\\' := fun h => hcs (List.mem_of_getLast? h)

theorem readNumeric_append_blank :
    readNumeric (cs ++ ' ' :: r) = ((readNumeric cs).1, (readNumeric cs).2 ++ ' ' :: r) := by
  have hrest : '\\' ∉ (Numeral.read cs).2 := fun h => hcs ((Numeral.read_suffix cs).subset h)
  simp only [readNumeric, Numeral.read_append (q := ' ') (by decide),
    startsName_append_blank (getLast?_ne_backslash hrest),
    readName_append_blank hrest]
  split
  · rfl
  · cases (Numeral.read cs).2 with
    | nil => rfl
    | cons d u =>
      by_cases hpercent : d = '%'
      · subst hpercent
        rfl
      · simp [hpercent]

end

/-- Addresses, which may hold anything between their parentheses. -/
def Token.isAddress : Token → Bool
  | .url _ | .badUrl => true
  | _ => false

theorem readNamed_append_blank (hcs : '\\' ∉ cs) (h : (readNamed cs).1.isAddress = false)
    (r : List Char) :
    readNamed (cs ++ ' ' :: r) = ((readNamed cs).1, (readNamed cs).2 ++ ' ' :: r) := by
  rw [readNamed_eq] at h
  rw [readNamed_eq, readNamed_eq, readName_append_blank hcs]
  cases hrest : (readName cs).2 with
  | nil => rfl
  | cons d u =>
    rw [hrest] at h
    by_cases hopen : d = '('
    · subst hopen
      have hurl : Text.sameIgnoringCase (String.ofList (readName cs).1) "url" = false := by
        refine Bool.eq_false_iff.2 fun hurl => ?_
        simp only [endNamed, hurl, ↓reduceIte] at h
        cases hread : (readUrl u).1 <;> simp [hread, Token.isAddress] at h
      simp [endNamed, hurl]
    · simp [endNamed, hopen]

theorem readToken_append_blank {u : List Char} (hinert : ∀ d ∈ c :: u, IsInert d)
    (h : (readToken c u).1.isAddress = false) (r : List Char) :
    readToken c (u ++ ' ' :: r) = ((readToken c u).1, (readToken c u).2 ++ ' ' :: r) := by
  have hslash := backslash_notMem hinert
  have hslash' : '\\' ∉ u := fun hmem => hslash (List.mem_cons_of_mem c hmem)
  have hquote : (c == '"' || c == '\'') = false := by
    have := hinert c List.mem_cons_self
    simp only [IsInert, List.mem_cons, List.not_mem_nil, or_false, not_or] at this
    simp [this.2.1, this.2.2.1]
  have hname : (u ++ ' ' :: r).head?.any isNameChar = u.head?.any isNameChar := by
    cases u with
    | nil => rfl
    | cons d u => rfl
  have hstarts := Numeral.starts_append (q := ' ') (by decide) (c :: u) r
  have hnumeric := readNumeric_append_blank hslash r
  have hnamed := fun h => readNamed_append_blank hslash h r
  have hstart := startsName_append_blank (getLast?_ne_backslash hslash) r
  rw [List.cons_append] at hstarts hnumeric hstart
  simp only [List.cons_append] at hnamed
  unfold readToken at h ⊢
  simp only [hquote, hname, startsEscape_append_blank hslash', startsEscape_eq_false hslash',
    hstarts, hstart, startsName_append_blank (getLast?_ne_backslash hslash'),
    readName_append_blank hslash',
    isPrefixOf_append (show ' ' ∉ ['-', '>'] by decide),
    isPrefixOf_append (show ' ' ∉ ['!', '-', '-'] by decide)] at h ⊢
  have hdrop : ∀ mark : List Char, mark.isPrefixOf u →
      (u ++ ' ' :: r).drop mark.length = u.drop mark.length ++ ' ' :: r := fun mark hmark =>
    List.drop_append_of_le_length (List.isPrefixOf_iff_prefix.1 hmark).length_le
  simp only [Bool.false_eq_true, ↓reduceIte] at h ⊢
  -- the branches, in the order in which they are tried
  split_ifs at h ⊢ with _ _ _ _ _ hclose hopen
  · rfl
  · rfl
  · exact hnumeric
  · rfl
  · rfl
  · exact Prod.ext rfl (hdrop ['-', '>'] (Bool.and_eq_true_iff.1 hclose).2)
  · exact Prod.ext rfl (hdrop ['!', '-', '-'] (Bool.and_eq_true_iff.1 hopen).2)
  · exact hnamed h
  · rfl

/-- Blanks before a text that is not all blank are skipped, and no more than those. -/
theorem skipSpace_append_blank (hinert : ∀ c ∈ cs, IsInert c)
    (hsolid : ∃ c ∈ cs, Text.isAsciiBlank c = false) (seen : Bool) :
    ∃ seen' d u, d :: u <:+ cs ∧ skipSpace seen cs = (seen', d :: u) ∧
      ∀ r, skipSpace seen (cs ++ ' ' :: r) = (seen', d :: u ++ ' ' :: r) := by
  induction cs generalizing seen with
  | nil =>
    obtain ⟨c, hc, -⟩ := hsolid
    exact absurd hc List.not_mem_nil
  | cons c cs ih =>
    have hinert' := fun d hd => hinert d (List.mem_cons_of_mem c hd)
    cases hc : Text.isAsciiBlank c with
    | true =>
      have hskip : ∀ l, skipSpace seen (c :: l) = skipSpace true l := by
        intro l
        rw [skipSpace, if_pos hc]
        rintro u rfl
        exact absurd hc (by decide)
      obtain ⟨d, hd, hsolid⟩ := hsolid
      have hmem : d ∈ cs := (List.mem_cons.1 hd).resolve_left fun heq => by
        rw [heq, hc] at hsolid
        exact Bool.noConfusion hsolid
      obtain ⟨seen', e, u, hsuffix, hread, happend⟩ := ih hinert' ⟨d, hmem, hsolid⟩ true
      refine ⟨seen', e, u, hsuffix.trans (List.suffix_cons c cs), (hskip cs).trans hread, ?_⟩
      exact fun r => (hskip _).trans (happend r)
    | false =>
      have hskip : ∀ l : List Char, l.head? ≠ some '*' →
          skipSpace seen (c :: l) = (seen, c :: l) := by
        intro l hl
        by_cases hslash : c = '/'
        · subst hslash
          exact skipSpace_slash hl seen
        · exact skipSpace_cons hc hslash seen
      refine ⟨seen, c, cs, List.suffix_rfl, hskip cs fun hstar => ?_,
        fun r => hskip _ fun hstar => ?_⟩
      · exact absurd (hinert' _ (List.mem_of_mem_head? hstar)) (by decide)
      · cases cs with
        | nil => exact absurd (Option.some.inj hstar) (by decide)
        | cons d cs => exact absurd (hinert' d List.mem_cons_self) (by
            rw [Option.some.inj hstar]
            decide)

theorem next?_append_blank (hinert : ∀ c ∈ cs, IsInert c)
    (hsolid : ∃ c ∈ cs, Text.isAsciiBlank c = false) :
    ∃ t u, u <:+ cs ∧ next? cs = some (t, u) ∧ (t.isBlank → u ≠ []) ∧
      (t.isAddress = false → ∀ r, next? (cs ++ ' ' :: r) = some (t, u ++ ' ' :: r)) := by
  obtain ⟨seen, d, u, hsuffix, hread, happend⟩ := skipSpace_append_blank hinert hsolid false
  cases seen with
  | true =>
    refine ⟨.blank, d :: u, hsuffix, by rw [next?, hread], fun _ => List.cons_ne_nil d u, ?_⟩
    exact fun _ r => by rw [next?, happend]
  | false =>
    have hne := readToken_ne_blank d u
    refine ⟨(readToken d u).1, (readToken d u).2, (readToken_suffix d u).trans hsuffix,
      by rw [next?, hread], fun hblank => ?_, fun haddress r => ?_⟩
    · cases ht : (readToken d u).1 <;> simp_all [Token.isBlank]
    · rw [next?, happend]
      exact congrArg some (readToken_append_blank (fun e he => hinert e (hsuffix.subset he))
        haddress r)

/-- What is left of a text that does not end in a blank does not either. -/
theorem solid_of_suffix {u : List Char} (hlast : ∀ c ∈ cs.getLast?, Text.isAsciiBlank c = false)
    (h : u <:+ cs) : ∀ c ∈ u.getLast?, Text.isAsciiBlank c = false := by
  obtain ⟨w, rfl⟩ := h
  intro c hc
  refine hlast c ?_
  rw [List.getLast?_append, Option.mem_def.1 hc]
  rfl

section

variable (hinert : ∀ c ∈ cs, IsInert c)
  (hlast : ∀ c ∈ cs.getLast?, Text.isAsciiBlank c = false)
include hinert hlast

theorem exists_next?_of_ne_nil (hne : cs ≠ []) :
    ∃ t u, u <:+ cs ∧ next? cs = some (t, u) ∧ (t.isBlank → u ≠ []) ∧
      (t.isAddress = false → ∀ r, next? (cs ++ ' ' :: r) = some (t, u ++ ' ' :: r)) :=
  next?_append_blank hinert ⟨cs.getLast hne, List.getLast_mem hne,
    hlast _ (List.getLast?_eq_some_getLast hne)⟩

/-- A blank ends the last token of a text. -/
theorem tokens_append_blank (haddress : ∀ t ∈ tokens cs, t.isAddress = false) (r : List Char) :
    tokens (cs ++ ' ' :: r) = tokens cs ++ tokens (' ' :: r) := by
  induction cs using length_induction with
  | h cs ih =>
    by_cases hnil : cs = []
    · rw [hnil, tokens_nil]
      rfl
    · obtain ⟨t, u, hsuffix, hnext, -, happend⟩ := exists_next?_of_ne_nil hinert hlast hnil
      have htokens := tokens_of_next? hnext
      rw [htokens] at haddress ⊢
      rw [tokens_of_next? (happend (haddress t List.mem_cons_self) r),
        ih u (next?_length_lt hnext) (fun c hc => hinert c (hsuffix.subset hc))
          (solid_of_suffix hlast hsuffix) fun t ht => haddress t (List.mem_cons_of_mem _ ht)]
      rfl

/-- Where a text does not end in a blank, its tokens do not. -/
theorem not_isBlank_getLast?_tokens : ∀ t ∈ (tokens cs).getLast?, t.isBlank = false := by
  induction cs using length_induction with
  | h cs ih =>
    by_cases hnil : cs = []
    · rw [hnil, tokens_nil]
      simp
    · obtain ⟨t, u, hsuffix, hnext, hblank, -⟩ := exists_next?_of_ne_nil hinert hlast hnil
      have hinert' : ∀ c ∈ u, IsInert c := fun c hc => hinert c (hsuffix.subset hc)
      have hlast' := solid_of_suffix hlast hsuffix
      have ih := ih u (next?_length_lt hnext) hinert' hlast'
      rw [tokens_of_next? hnext]
      by_cases hu : u = []
      · rw [hu, tokens_nil]
        rintro t' ⟨⟩
        exact Bool.eq_false_iff.2 fun h => hblank h hu
      · obtain ⟨t', u', -, hnext', -⟩ := exists_next?_of_ne_nil hinert' hlast' hu
        rw [tokens_of_next? hnext'] at ih ⊢
        rwa [List.getLast?_cons_cons]

end

/-! ### Components -/

/-- Whether a text is read as one component of a value where it stands between blanks. -/
structure IsComponent (text : String) : Prop where
  inert : ∀ c ∈ text.toList, IsInert c
  head : ∃ c r, text.toList = c :: r ∧ Text.isBlank c = false ∧ c ≠ '/'
  last : ∀ c ∈ text.toList.getLast?, Text.isBlank c = false
  address : ∀ t ∈ tokenize text, t.isAddress = false
  whole : ∀ {rest piece : List Token} {pieces : List (List Token)},
    splitOutside Token.opensGroup Token.closesGroup Token.isBlank 0 rest = piece :: pieces →
      splitOutside Token.opensGroup Token.closesGroup Token.isBlank 0 (tokenize text ++ rest) =
        (tokenize text ++ piece) :: pieces

theorem tokenize_of_isInert {text : String} (h : ∀ c ∈ text.toList, IsInert c) :
    tokenize text = tokens text.toList := by
  rw [tokenize, normalize_of_isNormal fun c hc => (h c hc).isNormal]

theorem Text.not_isAsciiBlank (h : Text.isBlank c = false) : Text.isAsciiBlank c = false := by
  refine Bool.eq_false_iff.2 fun hascii => ?_
  simp only [isAsciiBlank, Bool.or_eq_true, beq_iff_eq] at hascii
  rcases hascii with (((rfl | rfl) | rfl) | rfl) | rfl <;> exact absurd h (by decide)

section

variable {text : String} {texts : List String}

theorem toList_joined (text next : String) (texts : List String) :
    (String.intercalate " " (text :: next :: texts)).toList =
      text.toList ++ ' ' :: (String.intercalate " " (next :: texts)).toList := by
  simp [String.intercalate_cons_cons]

theorem isInert_joined (h : ∀ text ∈ texts, IsComponent text) :
    ∀ c ∈ (String.intercalate " " texts).toList, IsInert c := by
  induction texts with
  | nil => simp
  | cons text texts ih =>
    have htext := (h text List.mem_cons_self).inert
    cases texts with
    | nil => simpa using htext
    | cons next texts =>
      rw [toList_joined]
      exact List.forall_mem_append.2 ⟨htext, List.forall_mem_cons.2 ⟨by decide,
        ih fun t ht => h t (List.mem_cons_of_mem _ ht)⟩⟩

theorem exists_joined_eq (h : IsComponent text) (texts : List String) :
    ∃ c r, (String.intercalate " " (text :: texts)).toList = c :: r ∧
      Text.isBlank c = false ∧ c ≠ '/' := by
  obtain ⟨c, r, htext, hc⟩ := h.head
  cases texts with
  | nil => exact ⟨c, r, by simp [htext], hc⟩
  | cons next texts => exact ⟨c, _, by rw [toList_joined, htext, List.cons_append], hc⟩

theorem not_isBlank_getLast?_joined (h : ∀ text ∈ texts, IsComponent text) :
    ∀ c ∈ (String.intercalate " " texts).toList.getLast?, Text.isBlank c = false := by
  induction texts with
  | nil => simp
  | cons text texts ih =>
    cases texts with
    | nil => simpa using (h text List.mem_cons_self).last
    | cons next texts =>
      obtain ⟨c, r, heq, -⟩ := exists_joined_eq (h next (by simp)) texts
      have ih := ih fun t ht => h t (List.mem_cons_of_mem _ ht)
      rw [toList_joined]
      rw [heq] at ih ⊢
      rwa [List.getLast?_append_of_ne_nil _ (List.cons_ne_nil _ _), List.getLast?_cons_cons]

theorem trim_joined (hne : texts ≠ []) (h : ∀ text ∈ texts, IsComponent text) :
    Text.trim (String.intercalate " " texts) = String.intercalate " " texts := by
  obtain ⟨text, more, rfl⟩ := List.exists_cons_of_ne_nil hne
  obtain ⟨c, r, heq, hc, -⟩ := exists_joined_eq (h text List.mem_cons_self) more
  have hhead : ∀ d ∈ (String.intercalate " " (text :: more)).toList.head?,
      Text.isBlank d = false := by
    rw [heq]
    rintro d ⟨⟩
    exact hc
  rw [Text.trim, trimBy_eq_self hhead (not_isBlank_getLast?_joined h), String.ofList_toList]

theorem splitOutside_tokens_joined (hne : texts ≠ []) (h : ∀ text ∈ texts, IsComponent text) :
    splitOutside Token.opensGroup Token.closesGroup Token.isBlank 0
        (tokens (String.intercalate " " texts).toList) = texts.map tokenize := by
  induction texts with
  | nil => exact absurd rfl hne
  | cons text texts ih =>
    have htext := h text List.mem_cons_self
    have hread := tokenize_of_isInert htext.inert
    have hends : ∀ pieces rest,
        splitOutside Token.opensGroup Token.closesGroup Token.isBlank 0 rest = [] :: pieces →
          splitOutside Token.opensGroup Token.closesGroup Token.isBlank 0
            (tokens text.toList ++ rest) = tokenize text :: pieces := by
      intro pieces rest hrest
      rw [← hread, htext.whole hrest, List.append_nil]
    cases texts with
    | nil =>
      have hwhole := hends [] [] rfl
      rwa [List.append_nil] at hwhole
    | cons next texts =>
      have hrest := ih (List.cons_ne_nil next texts) fun t ht => h t (List.mem_cons_of_mem _ ht)
      have hstarts : StartsToken (String.intercalate " " (next :: texts)).toList := by
        obtain ⟨c, r, heq, hblank, hslash⟩ :=
          exists_joined_eq (h next (List.mem_cons_of_mem _ List.mem_cons_self)) texts
        rw [heq]
        exact startsToken_cons (Text.not_isAsciiBlank hblank) hslash r
      rw [toList_joined, tokens_append_blank htext.inert
        (fun c hc => Text.not_isAsciiBlank (htext.last c hc)) (hread ▸ htext.address),
        tokens_blank hstarts]
      exact hends _ _ (congrArg ([] :: ·) hrest)

/-- Texts that are read as components are the components of the text that they are joined to. -/
theorem splitComponents_joined (hne : texts ≠ []) (h : ∀ text ∈ texts, IsComponent text)
    (hstable : ∀ text ∈ texts, tokensText (tokenize text) = text) :
    splitComponents (String.intercalate " " texts) = texts := by
  have hpieces : ∀ piece ∈ texts.map tokenize, (!piece.isEmpty) = true := by
    intro piece hpiece
    obtain ⟨text, htext, rfl⟩ := List.mem_map.1 hpiece
    obtain ⟨c, r, heq, hblank, hslash⟩ := (h text htext).head
    rw [tokenize_of_isInert (h text htext).inert, heq,
      tokens_cons (Text.not_isAsciiBlank hblank) hslash rfl]
    rfl
  rw [splitComponents, tokenize_of_isInert (isInert_joined h), splitOutside_tokens_joined hne h,
    List.filter_eq_self.2 hpieces, List.map_map]
  exact (List.map_congr_left hstable).trans (List.map_id texts)

end

end WebStyle
