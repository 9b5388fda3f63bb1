import WebStyle.Proofs.Selector.Printed
import WebStyle.Proofs.Selector.Read
import WebStyle.Proofs.Sequence
import WebStyle.Proofs.Token.Proper
import WebStyle.Style.Matching
/-!
Selectors that are read can be printed: their names are no empty ones, and what may stand at one
place only stands there. So they are kept by their text: what a text is read as is read again from
its canonical text.
-/
set_option autoImplicit false

namespace WebStyle

open SelectorReader

variable {ts r : List Token}

/-! ### Tokens that were read -/

/-- Whether tokens can stem from a text. -/
def Proper (ts : List Token) : Prop := ∀ t ∈ ts, t.IsProper

namespace Proper

variable {t : Token}

theorem head (h : Proper (t :: ts)) : t.IsProper := h t List.mem_cons_self

theorem tail (h : Proper (t :: ts)) : Proper ts := fun u hu => h u (List.mem_cons_of_mem t hu)

theorem skipBlanks (h : Proper ts) : Proper (skipBlanks ts) := fun t ht =>
  h t ((List.dropWhile_sublist Token.isBlank).subset ht)

theorem trimBlanks (h : Proper ts) : Proper (trimBlanks ts) := fun t ht =>
  h t (mem_of_mem_trimBy ht)

theorem name {s : String} (h : Proper (.ident s :: ts)) : IsName s := ⟨h.head.1, h.head.2⟩

theorem lowerName {s : String} (h : Proper (.ident s :: ts)) : IsLowerName (Text.lower s) where
  nonempty := Text.lower_ne_empty h.name.nonempty
  noNul := Text.nul_notMem_lower h.name.noNul
  lower := Text.lower_lower s

end Proper

theorem Proper.splitArguments? {p : List Token × List Token} (hts : Proper ts)
    (h : splitArguments? ts = some p) : Proper p.1 ∧ Proper p.2 :=
  ⟨fun t ht => hts t (mem_of_splitAtClose? h (.inl ht)),
    fun t ht => hts t (mem_of_splitAtClose? h (.inr ht))⟩

/-! ### Formulas -/

namespace Nth

theorem natAbs_of_coefficient? {n : Numeral} {i : Int} (h : coefficient? n = some i) :
    i.natAbs ≤ limit := by
  simpa using (Option.filter_eq_some_iff.1 h).2

theorem natAbs_of_unsignedEnd? {i : Int} (h : unsignedEnd? ts = some i) : i.natAbs ≤ limit := by
  unfold unsignedEnd? at h
  split at h
  · split at h
    · exact natAbs_of_coefficient? h
    · simp at h
  · simp at h

theorem natAbs_of_offset? {i : Int} (h : offset? ts = some i) : i.natAbs ≤ limit := by
  unfold offset? at h
  split at h
  · obtain rfl := Option.some.inj h
    exact Nat.zero_le limit
  · exact natAbs_of_unsignedEnd? h
  · obtain ⟨j, hj, rfl⟩ := Option.map_eq_some_iff.1 h
    rw [Int.natAbs_neg]
    exact natAbs_of_unsignedEnd? hj
  · split at h
    · exact natAbs_of_coefficient? h
    · simp at h
  · simp at h

theorem valid_of_ofName? {a : Int} {name : List Char} {f : Nth} (ha : a.natAbs ≤ limit)
    (h : ofName? a name ts = some f) : f.Valid := by
  unfold ofName? at h
  split at h
  · obtain ⟨i, hi, rfl⟩ := Option.map_eq_some_iff.1 h
    exact ⟨ha, natAbs_of_offset? hi⟩
  · obtain ⟨i, hi, rfl⟩ := Option.map_eq_some_iff.1 h
    refine ⟨ha, ?_⟩
    simpa using natAbs_of_unsignedEnd? hi
  · split at h
    · rename_i hds
      obtain rfl := Option.some.inj h
      simp only [Bool.and_eq_true, decide_eq_true_eq] at hds
      refine ⟨ha, ?_⟩
      simpa using hds.2
    · simp at h
  · simp at h

theorem valid_of_ofIdent? {name : List Char} {f : Nth} (h : ofIdent? name ts = some f) :
    f.Valid := by
  unfold ofIdent? at h
  split at h
  · split at h
    · obtain rfl := Option.some.inj h
      exact ⟨by decide, by decide⟩
    · simp at h
  · split at h
    · split at h
      · obtain rfl := Option.some.inj h
        exact ⟨by decide, by decide⟩
      · simp at h
    · split at h
      · exact valid_of_ofName? (by decide) h
      · exact valid_of_ofName? (by decide) h

theorem valid_of_ofTokens? {f : Nth} (h : ofTokens? ts = some f) : f.Valid := by
  unfold ofTokens? at h
  split at h
  · exact valid_of_ofName? (by decide) h
  · split at h
    · exact valid_of_ofIdent? h
    · simp only [Option.bind_eq_bind, Option.bind_eq_some_iff] at h
      obtain ⟨a, ha, h⟩ := h
      exact valid_of_ofName? (natAbs_of_coefficient? ha) h
    · split at h
      · obtain ⟨i, hi, rfl⟩ := Option.map_eq_some_iff.1 h
        exact ⟨Nat.zero_le limit, natAbs_of_coefficient? hi⟩
      · simp at h
    · simp at h

end Nth

/-! ### Conditions -/

theorem proper_of_readOperator? {p : AttributeOperator × List Token} (hts : Proper ts)
    (h : readOperator? ts = some p) : Proper p.2 := by
  unfold readOperator? at h
  split at h
  case h_1 => exact Option.some.inj h ▸ hts.tail
  case h_7 => simp at h
  all_goals exact Option.some.inj h ▸ hts.tail.tail

theorem proper_of_readFlag? {p : Bool × List Token} (hts : Proper ts)
    (h : readFlag? ts = some p) : Proper p.2 := by
  unfold readFlag? at h
  split at h
  · split at h
    · exact Option.some.inj h ▸ hts.tail.skipBlanks
    · exact Option.some.inj h ▸ hts.tail.skipBlanks
    · simp at h
  · exact Option.some.inj h ▸ hts

theorem proper_of_readValue? {p : String × List Token} (hts : Proper ts)
    (h : readValue? ts = some p) : '\x00' ∉ p.1.toList ∧ Proper p.2 := by
  unfold readValue? at h
  split at h
  · exact Option.some.inj h ▸ ⟨hts.head.2, hts.tail.skipBlanks⟩
  · exact Option.some.inj h ▸ ⟨hts.head, hts.tail.skipBlanks⟩
  · simp at h

theorem valid_of_readComparison? {name : String} {p : AttributeTest × List Token}
    (hname : IsLowerName name) (hts : Proper ts) (h : readComparison? name ts = some p) :
    p.1.Valid ∧ Proper p.2 := by
  simp only [readComparison?, Option.bind_eq_bind, Option.bind_eq_some_iff] at h
  obtain ⟨⟨operator, r⟩, hoperator, ⟨value, r'⟩, hvalue, ⟨ignoreCase, r''⟩, hflag, h⟩ := h
  have hr := proper_of_readOperator? hts hoperator
  obtain ⟨hnul, hr'⟩ := proper_of_readValue? hr.skipBlanks hvalue
  have hr'' := proper_of_readFlag? hr' hflag
  simp only at h
  split at h
  · exact Option.some.inj h ▸ ⟨⟨hname, hnul⟩, hr''.tail⟩
  · simp at h

theorem valid_of_readAttribute? {p : AttributeTest × List Token} (hts : Proper ts)
    (h : readAttribute? ts = some p) : p.1.Valid ∧ Proper p.2 := by
  have hskip := hts.skipBlanks
  unfold readAttribute? at h
  split at h
  · rename_i name r heq
    rw [heq] at hskip
    have hr := hskip.tail.skipBlanks
    split at h
    · rename_i r' heq'
      rw [heq'] at hr
      exact Option.some.inj h ▸ ⟨hskip.lowerName, hr.tail⟩
    · exact valid_of_readComparison? hskip.lowerName hr h
  · simp at h

namespace PseudoClass

theorem formula?_of_ofName? {name : String} {p : PseudoClass} (h : ofName? name = some p) :
    p.formula? = none := by
  have hnamed : ∀ q ∈ named, q.2.formula? = none := by decide
  obtain ⟨l, l', heq, -⟩ := List.lookup_eq_some_iff.1 h
  exact hnamed (Text.lower name, p) (by simp [heq])

theorem formula?_of_ofFormula? {name : String} {f : Nth} {p : PseudoClass}
    (h : ofFormula? name f = some p) : p.formula? = some f := by
  unfold ofFormula? at h
  split at h
  case h_5 => simp at h
  all_goals exact Option.some.inj h ▸ rfl

end PseudoClass

/-- A condition that is read can be printed, and is none on the type. -/
theorem valid_of_readCondition? {p : Condition × List Token} (hts : Proper ts)
    (h : readCondition? ts = some p) : p.1.Valid ∧ p.1.isType = false ∧ Proper p.2 := by
  unfold readCondition? at h
  split at h
  · exact Option.some.inj h ▸ ⟨⟨hts.head.1, hts.head.2⟩, rfl, hts.tail⟩
  · exact Option.some.inj h ▸ ⟨hts.tail.name, rfl, hts.tail.tail⟩
  · obtain ⟨q, hq, rfl⟩ := Option.map_eq_some_iff.1 h
    obtain ⟨hvalid, hr⟩ := valid_of_readAttribute? hts.tail hq
    exact ⟨hvalid, rfl, hr⟩
  · split at h
    · simp at h
    · obtain ⟨q, hq, rfl⟩ := Option.map_eq_some_iff.1 h
      refine ⟨fun f hf => ?_, rfl, hts.tail.tail⟩
      simp [PseudoClass.formula?_of_ofName? hq] at hf
  · simp only [Option.bind_eq_bind, Option.bind_eq_some_iff] at h
    obtain ⟨⟨args, r⟩, hargs, f, hf, q, hq, h⟩ := h
    obtain ⟨-, hr⟩ := hts.tail.tail.splitArguments? hargs
    obtain rfl := Option.some.inj h
    refine ⟨fun g hg => ?_, rfl, hr⟩
    rw [PseudoClass.formula?_of_ofFormula? hq] at hg
    exact Option.some.inj hg ▸ Nth.valid_of_ofTokens? hf
  · simp at h

theorem valid_of_readConditions? {cs : List Condition} (hts : Proper ts)
    (h : readConditions? ts = some cs) : ∀ c ∈ cs, c.Valid ∧ c.isType = false := by
  fun_induction readConditions? ts generalizing cs with
  | case1 ts _ =>
    obtain rfl := Option.some.inj h
    simp
  | case2 => simp at h
  | case3 ts _ c r hc _ ih =>
    obtain ⟨more, hmore, rfl⟩ := Option.map_eq_some_iff.1 h
    obtain ⟨hvalid, htype, hr⟩ := valid_of_readCondition? hts hc
    intro d hd
    rcases List.mem_cons.1 hd with rfl | hd
    · exact ⟨hvalid, htype⟩
    · exact ih hr hmore d hd

theorem valid_of_readType (hts : Proper ts) :
    (∀ c ∈ (readType ts).1, c.Valid) ∧ (readType ts).1.length ≤ 1 ∧ Proper (readType ts).2 := by
  unfold readType
  split
  · refine ⟨?_, Nat.le_refl 1, hts.tail⟩
    simpa [Condition.Valid] using hts.lowerName
  · exact ⟨by simp [Condition.Valid], Nat.le_refl 1, hts.tail⟩
  · exact ⟨by simp, Nat.zero_le 1, hts⟩

/-- Of a list with at most one element before another, the rest lies in the other. -/
theorem mem_of_mem_tail_append {α : Type} {l l' : List α} {x : α} (h : l.length ≤ 1)
    (hx : x ∈ (l ++ l').tail) : x ∈ l' := by
  match l, h with
  | [], _ => exact List.mem_of_mem_tail hx
  | [_], _ => exact hx

/-! ### Simple selectors -/

theorem valid_of_readNegated? {cs : List Condition} (hts : Proper ts)
    (h : readNegated? ts = some cs) : (SimpleSelector.negation cs).Valid := by
  obtain ⟨hfirst, hlength, hr⟩ := valid_of_readType hts
  simp only [readNegated?, Option.bind_eq_bind, Option.bind_eq_some_iff] at h
  obtain ⟨more, hmore, h⟩ := h
  have hvalid := valid_of_readConditions? hr hmore
  split at h
  · simp at h
  · rename_i hne
    obtain rfl := Option.some.inj h
    refine ⟨by simpa using hne, fun c hc => ?_, fun c hc => ?_⟩
    · exact (List.mem_append.1 hc).elim (hfirst c) fun hc => (hvalid c hc).1
    · exact (hvalid c (mem_of_mem_tail_append hlength hc)).2

theorem valid_of_readSimple? {p : SimpleSelector × List Token} (hts : Proper ts)
    (h : readSimple? ts = some p) : p.1.Valid ∧ p.1.isType = false ∧ Proper p.2 := by
  have hplain : (readCondition? ts).map (fun q => (SimpleSelector.plain q.1, q.2)) = some p →
      p.1.Valid ∧ p.1.isType = false ∧ Proper p.2 := by
    intro h
    obtain ⟨q, hq, rfl⟩ := Option.map_eq_some_iff.1 h
    exact valid_of_readCondition? hts hq
  unfold readSimple? at h
  split at h
  · split at h
    · simp only [Option.bind_eq_bind, Option.bind_eq_some_iff] at h
      obtain ⟨⟨args, r⟩, hargs, cs, hcs, h⟩ := h
      obtain ⟨hproper, hr⟩ := hts.tail.tail.splitArguments? hargs
      obtain rfl := Option.some.inj h
      exact ⟨valid_of_readNegated? hproper.trimBlanks hcs, rfl, hr⟩
    · exact hplain h
  · exact hplain h

theorem valid_of_readSimples? {p : List SimpleSelector × List Token} (hts : Proper ts)
    (h : readSimples? ts = some p) :
    (∀ s ∈ p.1, s.Valid ∧ s.isType = false) ∧ Proper p.2 := by
  fun_induction readSimples? ts generalizing p with
  | case1 ts _ =>
    obtain rfl := Option.some.inj h
    exact ⟨by simp, hts⟩
  | case2 => simp at h
  | case3 ts _ s r hs _ ih =>
    obtain ⟨q, hq, rfl⟩ := Option.map_eq_some_iff.1 h
    obtain ⟨hvalid, htype, hr⟩ := valid_of_readSimple? hts hs
    obtain ⟨hmore, hrest⟩ := ih hr hq
    refine ⟨fun t ht => ?_, hrest⟩
    rcases List.mem_cons.1 ht with rfl | ht
    · exact ⟨hvalid, htype⟩
    · exact hmore t ht

/-! ### Compound selectors, selectors and lists of them -/

theorem proper_of_readElement? {p : PseudoElement × List Token} (hts : Proper ts)
    (h : readElement? ts = some p) : Proper p.2 := by
  unfold readElement? at h
  split at h
  · obtain ⟨q, -, rfl⟩ := Option.map_eq_some_iff.1 h
    exact hts.tail.tail.tail
  · obtain ⟨q, -, rfl⟩ := Option.map_eq_some_iff.1 h
    exact hts.tail.tail
  · simp at h

theorem valid_of_readCompound? {p : CompoundSelector × List Token} (hts : Proper ts)
    (h : readCompound? ts = some p) : p.1.Valid ∧ Proper p.2 := by
  obtain ⟨hfirst, hlength, hr⟩ := valid_of_readType hts
  unfold readCompound? at h
  simp only [Option.bind_eq_bind] at h
  split at h
  · simp at h
  simp only [Option.bind_eq_some_iff] at h
  obtain ⟨⟨more, r⟩, hmore, h⟩ := h
  obtain ⟨hvalid, hrest⟩ := valid_of_readSimples? hr hmore
  have hsimples : ∀ s ∈ (readType ts).1.map SimpleSelector.plain ++ more, s.Valid := by
    intro s hs
    rcases List.mem_append.1 hs with hs | hs
    · obtain ⟨c, hc, rfl⟩ := List.mem_map.1 hs
      exact hfirst c hc
    · exact (hvalid s hs).1
  have htypes : ∀ s ∈ ((readType ts).1.map SimpleSelector.plain ++ more).tail, s.isType = false :=
    fun s hs => (hvalid s (mem_of_mem_tail_append (by simpa using hlength) hs)).2
  simp only at h
  split at h
  · rename_i p r' helement
    have hr' := proper_of_readElement? hrest helement
    split at h
    · simp at h
    · exact Option.some.inj h ▸ ⟨⟨.inr rfl, hsimples, htypes⟩, hr'⟩
  · split at h
    · simp at h
    · rename_i hne
      exact Option.some.inj h ▸ ⟨⟨.inl (by simpa using hne), hsimples, htypes⟩, hrest⟩

theorem proper_of_readCombinator? {p : Combinator × List Token} (hts : Proper ts)
    (h : readCombinator? ts = some p) : Proper p.2 := by
  have hskip := hts.skipBlanks
  unfold readCombinator? at h
  split at h
  case h_4 =>
    split at h
    · exact Option.some.inj h ▸ hskip
    · simp at h
  all_goals
    rename_i heq
    rw [heq] at hskip
    exact Option.some.inj h ▸ hskip.tail.skipBlanks

theorem ComplexSelector.Valid.extend {s : ComplexSelector} {c : CompoundSelector} (hs : s.Valid)
    (hnone : s.subject.pseudoElement = none) (hc : c.Valid) (k : Combinator) :
    (s.extend k c).Valid where
  subject := hc
  links link hlink := by
    rcases List.mem_cons.1 hlink with rfl | hlink
    · exact ⟨hs.subject, hnone⟩
    · exact hs.links link hlink

theorem valid_of_readLinks? {s s' : ComplexSelector} (hs : s.Valid) (hts : Proper ts)
    (h : readLinks? s ts = some s') : s'.Valid := by
  fun_induction readLinks? s ts with
  | case1 => exact Option.some.inj h ▸ hs
  | case2 => simp at h
  | case3 => simp at h
  | case4 => simp at h
  | case5 s ts _ hnone k r hk c rest hc _ ih =>
    obtain ⟨hvalid, hrest⟩ := valid_of_readCompound? (proper_of_readCombinator? hts hk) hc
    exact ih (hs.extend (by simpa using hnone) hvalid k) hrest h

theorem ComplexSelector.valid_of_ofTokens? {s : ComplexSelector} (hts : Proper ts)
    (h : ofTokens? ts = some s) : s.Valid := by
  simp only [ofTokens?, Option.bind_eq_bind, Option.bind_eq_some_iff] at h
  obtain ⟨⟨c, r⟩, hc, h⟩ := h
  obtain ⟨hvalid, hr⟩ := valid_of_readCompound? hts hc
  exact valid_of_readLinks? ⟨hvalid, by simp⟩ hr h

/-- What is read from a text can be printed. -/
theorem SelectorList.valid_of_ofString? {text : String} {l : SelectorList}
    (h : ofString? text = some l) : l ≠ [] ∧ ∀ s ∈ l, s.Valid := by
  have hproper : Proper (tokenize text) := isProper_tokenize text
  obtain ⟨hlength, hmem, -⟩ := mapM_eq_some h
  refine ⟨?_, fun s hs => ?_⟩
  · rintro rfl
    exact splitOutside_ne_nil _ _ _ _ _ (List.length_eq_zero_iff.1 hlength.symm)
  · obtain ⟨piece, hpiece, hs⟩ := hmem s hs
    have hpieces : Proper piece := fun t ht => hproper t (mem_of_splitOutside hpiece ht)
    exact ComplexSelector.valid_of_ofTokens? hpieces.trimBlanks hs

end WebStyle

namespace WebStyle

/-! ### Reading canonical texts -/

namespace SelectorList

/-- The canonical text of selectors that were read is read as the same selectors, so it is its own
canonical text, and specificity and matching do not change. -/
theorem text_reads_back {t : String} {l : SelectorList} (h : ofString? t = some l) :
    ofString? (SelectorList.text l) = some l ∧
      ∀ l', ofString? (SelectorList.text l) = some l' →
        SelectorList.text l' = SelectorList.text l ∧
        SelectorList.specificity l' = SelectorList.specificity l ∧
        ∀ (d : Dom) (n : NodeId) (pseudo : Option PseudoElement),
          d.matchSpecificity? n pseudo l' = d.matchSpecificity? n pseudo l := by
  obtain ⟨hne, hvalid⟩ := valid_of_ofString? h
  have hread := ofString?_text hne hvalid
  refine ⟨hread, fun l' hl' => ?_⟩
  obtain rfl := Option.some.inj (hread.symm.trans hl')
  exact ⟨rfl, rfl, fun _ _ _ => rfl⟩

/-- A list with escapes, a formula with blanks, a negation and a pseudo-element. -/
def written : String :=
  "LI:nth-child( 2N + 1 )>.\\31 0:not([HREF^=x I])::before ,*"

/-- The selectors of the list. -/
def chosen : SelectorList :=
  [⟨⟨[.plain (.hasClass "10"),
      .negation [.attribute (.compares "href" .startsWith "x" true)]], some .before⟩,
    [(.child, ⟨[.plain (.type "li"), .plain (.pseudoClass (.nthChild ⟨2, 1⟩))], none⟩)]⟩,
   ⟨⟨[.plain .universal], none⟩, []⟩]

theorem text_reads_back_written :
    ofString? written = some chosen ∧ ofString? (SelectorList.text chosen) = some chosen :=
  have h : ofString? written = some chosen := by decide +kernel
  ⟨h, (text_reads_back h).1⟩

example : SelectorList.text chosen =
    "li:nth-child(2n+1) > .\\31 0:not([href^=\"x\" i])::before, *" := by decide +kernel

end SelectorList
end WebStyle
