import WebStyle.Proofs.Token.Nesting
import WebStyle.Sheet.Declaration
/-!
Declarations are isolated from each other. Tokens that close all groups that they open give the
declarations and the errors that they give alone, whatever stands after the semicolon behind them;
a piece makes no declaration exactly if something is wrong with it, and leaves an error only.
-/
set_option autoImplicit false

namespace WebStyle

namespace Declaration

/-- The tokens close all groups that they open and no other, braces among them: no start of them
closes more groups than it opens, and none is open at the end. -/
structure ClosesGroups (ts : List Token) : Prop where
  le : ∀ us, us <+: ts → us.countP closesGroup ≤ us.countP opensGroup
  eq : ts.countP closesGroup = ts.countP opensGroup

instance (ts : List Token) : Decidable (ClosesGroups ts) :=
  decidable_of_iff ((∀ us ∈ ts.inits, us.countP closesGroup ≤ us.countP opensGroup) ∧
      ts.countP closesGroup = ts.countP opensGroup)
    ⟨fun h => ⟨fun us hus => h.1 us ((List.mem_inits us ts).2 hus), h.2⟩,
      fun h => ⟨fun us hus => h.le us ((List.mem_inits us ts).1 hus), h.eq⟩⟩

theorem closesGroup_of_opensGroup (t : Token) (h : opensGroup t) : closesGroup t = false := by
  cases t <;> first | rfl | cases h

theorem not_groups_semicolon (t : Token) (h : (t == .semicolon) = true) :
    opensGroup t = false ∧ closesGroup t = false := by
  obtain rfl := eq_of_beq h
  exact ⟨rfl, rfl⟩

variable {ts us piece value : List Token} {name : String}

namespace ClosesGroups

theorem depthAfter_prefix (h : ClosesGroups ts) (hus : us <+: ts) :
    depthAfter opensGroup closesGroup 0 us + us.countP closesGroup = us.countP opensGroup := by
  have hcount : depthAfter opensGroup closesGroup 0 us + us.countP closesGroup =
      0 + us.countP opensGroup :=
    depthAfter_add_countP closesGroup_of_opensGroup fun l' hl' =>
      (Nat.zero_add _).symm ▸ h.le l' (hl'.trans hus)
  rwa [Nat.zero_add] at hcount

theorem depthAfter_eq_zero (h : ClosesGroups ts) : depthAfter opensGroup closesGroup 0 ts = 0 := by
  have := h.depthAfter_prefix List.prefix_rfl
  have := h.eq
  omega

end ClosesGroups

/-! ### Isolation -/

theorem chunks_append (h : ClosesGroups ts) (us : List Token) :
    chunks (ts ++ .semicolon :: us) = chunks ts ++ chunks us := by
  rw [chunks, splitOutside_append_cons not_groups_semicolon rfl h.depthAfter_eq_zero,
    List.filter_append, chunks, chunks]

theorem listOfTokens_append (h : ClosesGroups ts) (us : List Token) :
    listOfTokens (ts ++ .semicolon :: us) =
      ((listOfTokens ts).1 ++ (listOfTokens us).1, (listOfTokens ts).2 ++ (listOfTokens us).2) := by
  simp only [listOfTokens, chunks_append h, List.filterMap_append]

/-- Whether no semicolon stands outside the groups of a piece. -/
def IsPiece (ts : List Token) : Prop :=
  ∀ before after, ts = before ++ .semicolon :: after →
    before.countP closesGroup < before.countP opensGroup

theorem chunks_piece (h : ClosesGroups piece) (hpiece : IsPiece piece)
    (hne : ¬ piece.all Token.isBlank) : chunks piece = [piece] := by
  have hsplit : splitOutside opensGroup closesGroup (· == .semicolon) 0 piece = [piece] := by
    rcases splitOutside_cases opensGroup closesGroup (· == .semicolon) 0 piece with
      hsplit | ⟨before, x, after, hparts, hx, hdepth, -⟩
    · exact hsplit
    · obtain rfl := eq_of_beq hx
      have hlt := hpiece before after hparts
      have := h.depthAfter_prefix ⟨_, hparts.symm⟩
      omega
  rw [chunks, hsplit, List.filter_singleton]
  simp [hne]

/-! ### What is dropped -/

/-- Whether a piece starts with a name and a colon, with the given tokens after them. -/
def HasValue (piece : List Token) (name : String) (value : List Token) : Prop :=
  ∃ r, trimBlanks piece = .ident name :: r ∧ trimBlanks r = .colon :: value

/-- Whether tokens are the word that an exclamation mark may stand before at the end of a value. -/
def IsPriority (ts : List Token) : Prop := ∃ flag, trimBlanks ts = [flag] ∧ flag.isIdent "important"

/-- Whether an exclamation mark stands outside groups that does not mark the priority. -/
def HasStrayMark (value : List Token) : Prop :=
  ∃ before after, trimBlanks value = before ++ .delim '!' :: after ∧
    depthAfter Token.opensGroup Token.closesGroup 0 before = 0 ∧ ¬ IsPriority after

/-- Whether a value holds nothing but blanks, apart from a priority. -/
def IsEmptyValue (value : List Token) : Prop :=
  (∀ t ∈ value, t.isBlank) ∨ ∃ before after, trimBlanks value = before ++ .delim '!' :: after ∧
    (∀ t ∈ before, t.isBlank) ∧ IsPriority after

/-- What is wrong with a piece that makes no declaration. -/
inductive Malformed (piece : List Token) : Prop where
  | badName (h : ∀ name r, trimBlanks piece ≠ .ident name :: r)
  | missingColon {name : String} {r : List Token} (h : trimBlanks piece = .ident name :: r)
      (hr : ∀ value, trimBlanks r ≠ .colon :: value)
  | emptyValue {name : String} {value : List Token} (h : HasValue piece name value)
      (hcustom : isCustomName name = false) (hempty : IsEmptyValue value)
  /-- A bad string or address, or a brace: a block inside the value. -/
  | badValue {name : String} {value : List Token} {t : Token} (h : HasValue piece name value)
      (ht : t ∈ value) (hbad : allowsToken t = false)
  | strayMark {name : String} {value : List Token} (h : HasValue piece name value)
      (hmark : HasStrayMark value)

theorem ofTokens?_of_hasValue (h : HasValue piece name value) :
    ofTokens? piece = (splitPriority? value).bind fun (value, important) =>
      if !value.all allowsToken || (value.isEmpty && !isCustomName name) then none
      else some ⟨if isCustomName name then name else Text.lower name, tokensText value,
        important⟩ := by
  obtain ⟨r, hr, hvalue⟩ := h
  simp only [ofTokens?, hr, hvalue]
  rfl

theorem ofTokens?_of_not_hasValue (h : ∀ name value, ¬ HasValue piece name value) :
    ofTokens? piece = none := by
  unfold ofTokens?
  split
  · rename_i name r hr
    split
    · rename_i value hvalue
      exact absurd ⟨r, hr, hvalue⟩ (h name value)
    · rfl
  · rfl

/-! ### The priority -/

theorem not_groups_mark (t : Token) (h : (t == .delim '!') = true) :
    t.opensGroup = false ∧ t.closesGroup = false := by
  obtain rfl := eq_of_beq h
  exact ⟨rfl, rfl⟩

theorem mem_of_isPriority (h : IsPriority ts) {t : Token} (ht : t ∈ ts) :
    t.isBlank ∨ t.isIdent "important" := by
  obtain ⟨flag, htrim, hflag⟩ := h
  obtain ⟨-, before, after, hbefore, hafter, hparts⟩ :=
    Tight.of_trimBlanks (htrim ▸ List.cons_ne_nil flag [])
  rw [hparts, htrim] at ht
  simp only [List.mem_append, List.mem_singleton] at ht
  rcases ht with (ht | rfl) | ht
  · exact .inl (hbefore t ht)
  · exact .inr hflag
  · exact .inl (hafter t ht)

theorem splitOutside_of_isPriority (h : IsPriority ts) :
    splitOutside Token.opensGroup Token.closesGroup (· == .delim '!') 0 ts = [ts] := by
  refine splitOutside_of_forall (fun t ht => ?_) 0
  rcases mem_of_isPriority h ht with ht | ht <;> cases t <;>
    first | rfl | cases ht

/-- A mark that is stray spoils the value. -/
theorem splitPriority?_of_hasStrayMark (h : HasStrayMark value) : splitPriority? value = none := by
  obtain ⟨before, after, hparts, hdepth, hafter⟩ := h
  have hsplit := splitOutside_append_cons not_groups_mark (x := .delim '!') rfl hdepth after
  obtain ⟨first, more, hbefore⟩ := List.exists_cons_of_ne_nil (splitOutside_ne_nil
    Token.opensGroup Token.closesGroup (· == .delim '!') 0 before)
  obtain ⟨second, rest, hrest⟩ := List.exists_cons_of_ne_nil (splitOutside_ne_nil
    Token.opensGroup Token.closesGroup (· == .delim '!') 0 after)
  rw [← hparts, hbefore, hrest] at hsplit
  simp only [splitPriority?, hsplit]
  -- more pieces than two make nothing, and the second of two is what follows the mark
  cases more with
  | cons third more => cases more <;> rfl
  | nil =>
    cases rest with
    | cons => rfl
    | nil =>
      obtain rfl := eq_of_splitOutside_eq_singleton hrest
      simp only [List.cons_append, List.nil_append]
      split
      · rename_i flag htrim
        exact if_neg fun hflag => hafter ⟨flag, htrim, hflag⟩
      · rfl

theorem splitPriority?_of_isPriority {before after : List Token}
    (hsplit : splitOutside Token.opensGroup Token.closesGroup (· == .delim '!') 0
      (trimBlanks value) = before :: splitOutside Token.opensGroup Token.closesGroup
        (· == .delim '!') 0 after)
    (h : IsPriority after) : splitPriority? value = some (trimBlanks before, true) := by
  obtain ⟨flag, htrim, hflag⟩ := id h
  simp only [splitPriority?, hsplit, splitOutside_of_isPriority h, htrim, if_pos hflag]

/-- What the taking off of a priority comes to. -/
inductive Splits (value : List Token) : Option (List Token × Bool) → Prop where
  | plain : Splits value (some (trimBlanks value, false))
  | important {before after : List Token} (h : trimBlanks value = before ++ .delim '!' :: after)
      (hafter : IsPriority after) : Splits value (some (trimBlanks before, true))
  | stray (h : HasStrayMark value) : Splits value none

theorem splits_splitPriority? (value : List Token) : Splits value (splitPriority? value) := by
  rcases splitOutside_cases Token.opensGroup Token.closesGroup (· == .delim '!') 0
    (trimBlanks value) with hsplit | ⟨before, x, after, hparts, hx, hdepth, hsplit⟩
  · simp only [splitPriority?, hsplit]
    exact .plain
  · obtain rfl := eq_of_beq hx
    by_cases hafter : IsPriority after
    · exact splitPriority?_of_isPriority hsplit hafter ▸ .important hparts hafter
    · have hstray : HasStrayMark value := ⟨before, after, hparts, hdepth, hafter⟩
      exact splitPriority?_of_hasStrayMark hstray ▸ .stray hstray

theorem mem_value_of_splitPriority? {kept : List Token} {important : Bool}
    (h : splitPriority? value = some (kept, important)) {t : Token} (ht : t ∈ kept) :
    t ∈ value := by
  have hsplits := h ▸ splits_splitPriority? value
  cases hsplits with
  | plain => exact mem_of_mem_trimBy ht
  | important hparts =>
    exact mem_of_mem_trimBy (hparts ▸ List.mem_append_left _ (mem_of_mem_trimBy ht))

/-- A token that a value may not hold is not taken off with a priority. -/
theorem mem_splitPriority? {kept : List Token} {important : Bool}
    (h : splitPriority? value = some (kept, important)) {t : Token} (ht : t ∈ value)
    (hbad : allowsToken t = false) : t ∈ kept := by
  have hsplits := h ▸ splits_splitPriority? value
  have hblank : t.isBlank = false := by cases t <;> first | rfl | cases hbad
  have hmem : t ∈ trimBlanks value := mem_trimBy ht hblank
  cases hsplits with
  | plain => exact hmem
  | important hparts hafter =>
    rw [hparts] at hmem
    rcases List.mem_append.1 hmem with hmem | hmem
    · exact mem_trimBy hmem hblank
    · rcases List.mem_cons.1 hmem with rfl | hmem
      · cases hbad
      · rcases mem_of_isPriority hafter hmem with hflag | hflag
        · exact absurd hflag (by simp [hblank])
        · have hallowed : allowsToken t := by cases t <;> first | rfl | cases hflag
          exact absurd hallowed (by simp [hbad])

theorem isEmptyValue_of_splitPriority? {important : Bool}
    (h : splitPriority? value = some ([], important)) : IsEmptyValue value := by
  generalize hkept : ([] : List Token) = kept at h
  have hsplits := h ▸ splits_splitPriority? value
  cases hsplits with
  | plain => exact .inl (trimBy_eq_nil_iff.1 hkept.symm)
  | important hparts hafter => exact .inr ⟨_, _, hparts, trimBy_eq_nil_iff.1 hkept.symm, hafter⟩

theorem IsEmptyValue.exists_splitPriority? (h : IsEmptyValue value) :
    ∃ important, splitPriority? value = some ([], important) := by
  rcases h with hblank | ⟨before, after, hparts, hbefore, hafter⟩
  · have htrim : trimBlanks value = [] := trimBy_eq_nil_iff.2 hblank
    exact ⟨false, by simp only [splitPriority?, htrim, splitOutside]⟩
  · have hplain : ∀ t ∈ before, (t == .delim '!') = false := fun t ht => by
      have := hbefore t ht
      cases t <;> first | rfl | cases this
    have hdepth : depthAfter Token.opensGroup Token.closesGroup 0 before = 0 :=
      depthAfter_of_forall (fun t ht => Token.not_groups_of_isBlank (hbefore t ht)) 0
    have hsplit := splitOutside_append_cons not_groups_mark (x := .delim '!') rfl hdepth after
    rw [splitOutside_of_forall hplain, ← hparts, List.singleton_append] at hsplit
    have hnil : trimBlanks before = [] := trimBy_eq_nil_iff.2 hbefore
    exact ⟨true, hnil ▸ splitPriority?_of_isPriority hsplit hafter⟩

/-! ### Why there is no declaration -/

theorem malformed_of_not_hasValue (h : ∀ name value, ¬ HasValue piece name value) :
    Malformed piece := by
  by_cases hname : ∃ name r, trimBlanks piece = .ident name :: r
  · obtain ⟨name, r, hname⟩ := hname
    exact .missingColon hname fun value hr => h name value ⟨r, hname, hr⟩
  · exact .badName fun name r hr => hname ⟨name, r, hr⟩

theorem malformed_of_hasValue (hvalue : HasValue piece name value) (h : ofTokens? piece = none) :
    Malformed piece := by
  rw [ofTokens?_of_hasValue hvalue] at h
  cases hsplit : splitPriority? value with
  | none =>
    have hsplits := hsplit ▸ splits_splitPriority? value
    cases hsplits with
    | stray hmark => exact .strayMark hvalue hmark
  | some result =>
    obtain ⟨kept, important⟩ := result
    simp only [hsplit, Option.bind_some] at h
    split at h
    · rename_i hcond
      rcases Bool.or_eq_true_iff.1 hcond with hbad | hempty
      · obtain ⟨t, ht, hbad⟩ := List.all_eq_false.1 (Bool.not_eq_true' _ ▸ hbad)
        exact .badValue hvalue (mem_value_of_splitPriority? hsplit ht) (Bool.eq_false_iff.2 hbad)
      · obtain ⟨hnil, hcustom⟩ := Bool.and_eq_true_iff.1 hempty
        obtain rfl := List.isEmpty_iff.1 hnil
        exact .emptyValue hvalue (by simpa using hcustom) (isEmptyValue_of_splitPriority? hsplit)
    · cases h

/-- A piece makes no declaration exactly if something is wrong with it. -/
theorem ofTokens?_eq_none_iff : ofTokens? piece = none ↔ Malformed piece := by
  constructor
  · intro h
    by_cases hvalue : ∃ name value, HasValue piece name value
    · obtain ⟨name, value, hvalue⟩ := hvalue
      exact malformed_of_hasValue hvalue h
    · exact malformed_of_not_hasValue fun name value h => hvalue ⟨name, value, h⟩
  · intro h
    cases h with
    | badName h => exact ofTokens?_of_not_hasValue fun name value ⟨r, hr, _⟩ => h name r hr
    | missingColon h hr =>
      refine ofTokens?_of_not_hasValue fun name value ⟨r', hr', hvalue⟩ => ?_
      obtain ⟨-, rfl⟩ := List.cons.inj (h.symm.trans hr')
      exact hr value hvalue
    | emptyValue h hcustom hempty =>
      obtain ⟨important, hsplit⟩ := hempty.exists_splitPriority?
      rw [ofTokens?_of_hasValue h, hsplit, Option.bind_some]
      exact if_pos (by simp [hcustom])
    | badValue h ht hbad =>
      rw [ofTokens?_of_hasValue h]
      cases hsplit : splitPriority? _ with
      | none => rfl
      | some result =>
        have hmem := mem_splitPriority? hsplit ht hbad
        refine if_pos (Bool.or_eq_true_iff.2 (.inl ?_))
        simpa using ⟨_, hmem, hbad⟩
    | strayMark h hmark =>
      rw [ofTokens?_of_hasValue h, splitPriority?_of_hasStrayMark hmark, Option.bind_none]

/-- Declarations are isolated from each other. -/
theorem listOfTokens_isolated (h : ClosesGroups ts) (us : List Token) :
    listOfTokens (ts ++ .semicolon :: us) =
        ((listOfTokens ts).1 ++ (listOfTokens us).1, (listOfTokens ts).2 ++ (listOfTokens us).2) ∧
      ∀ piece, ClosesGroups piece → IsPiece piece → ¬ piece.all Token.isBlank → Malformed piece →
        listOfTokens (ts ++ .semicolon :: (piece ++ .semicolon :: us)) =
          ((listOfTokens ts).1 ++ (listOfTokens us).1,
            (listOfTokens ts).2 ++ .ofTokens .invalidDeclaration piece :: (listOfTokens us).2) := by
  refine ⟨listOfTokens_append h us, fun piece hpiece hwhole hne hbad => ?_⟩
  have hnone := ofTokens?_eq_none_iff.2 hbad
  have hdropped : listOfTokens piece = ([], [.ofTokens .invalidDeclaration piece]) := by
    simp [listOfTokens, chunks_piece hpiece hwhole hne, hnone]
  rw [listOfTokens_append h, listOfTokens_append hpiece, hdropped]
  rfl

/-- A declaration with a semicolon inside its value, and one without a name. -/
def spoiled : List Token :=
  [.ident "a", .colon, .function "f", .semicolon, .closeParen, .semicolon, .colon, .ident "x"]

def nestedBlock : List Token := [.ident "b", .colon, .openBrace, .ident "x", .closeBrace]

theorem listOfTokens_isolated_nestedBlock :
    ClosesGroups spoiled ∧ ClosesGroups nestedBlock ∧ Malformed nestedBlock ∧
      listOfTokens (spoiled ++ .semicolon ::
          (nestedBlock ++ .semicolon :: [.ident "c", .colon, .ident "d"])) =
        ((listOfTokens spoiled).1 ++ [⟨"c", "d", false⟩],
          (listOfTokens spoiled).2 ++ [.ofTokens .invalidDeclaration nestedBlock]) := by
  have hspoiled : ClosesGroups spoiled := by decide
  have hnested : ClosesGroups nestedBlock := by decide
  have hwhole : IsPiece nestedBlock := by
    intro before after hparts
    have hmem : .semicolon ∈ nestedBlock := hparts ▸ by simp
    exact absurd hmem (by decide)
  have hbad : Malformed nestedBlock :=
    .badValue (t := .openBrace) ⟨_, rfl, rfl⟩ List.mem_cons_self rfl
  have hlast : listOfTokens [.ident "c", .colon, .ident "d"] = ([⟨"c", "d", false⟩], []) := by
    decide +kernel
  have hall := (listOfTokens_isolated hspoiled [.ident "c", .colon, .ident "d"]).2 nestedBlock
    hnested hwhole (by decide) hbad
  rw [hlast] at hall
  exact ⟨hspoiled, hnested, hbad, hall⟩

end Declaration

end WebStyle
