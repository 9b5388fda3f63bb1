import WebStyle.Media.Parser
import WebStyle.Proofs.Selector.Valid
import WebStyle.Proofs.Token.Enclosed
/-!
Printed media queries, and what is read of them. A printed feature is read back if its name is
printed as one identifier and its value as the tokens that it was printed from; a query is, if its
features are.
-/
set_option autoImplicit false

namespace WebStyle

open Lexer MediaReader

variable {ts us r : List Token}

/-! ### Words between blanks -/

/-- A word between blanks. -/
theorem separates_word {s : String} (h : isWord s) :
    Separates (' ' :: (s.toList ++ [' '])) [.blank, .ident s, .blank] where
  normal := by
    simp only [List.forall_mem_cons, List.forall_mem_append]
    exact ⟨by decide, (LexesTo.word h).normal, by decide, nofun⟩
  endsIdent r := endsIdent_cons (by decide)
  tokens_append {r} hr := by
    have hends : EndsIdent (' ' :: r) := endsIdent_cons (by decide)
    have hstart := startsToken_of_startsName (LexesTo.readName_word h hends.endsName).1
    rw [List.cons_append, List.append_assoc, List.singleton_append, tokens_blank hstart,
      (LexesTo.word h).tokens_append hends, tokens_blank hr]
    rfl

/-! ### Pieces between commas -/

namespace MediaReader

/-- The tokens of the queries of a list. -/
abbrev pieces (ts : List Token) : List (List Token) :=
  splitOutside opensGroup (· == .closeParen) (· == .comma) 0 ts

/-- Whether tokens stay in one piece where a list is cut at its commas. -/
def Uncut (ts : List Token) : Prop :=
  ∀ rest piece more, pieces rest = piece :: more → pieces (ts ++ rest) = (ts ++ piece) :: more

theorem Uncut.append (h : Uncut ts) (hus : Uncut us) : Uncut (ts ++ us) := by
  intro rest piece more hrest
  rw [List.append_assoc, h _ _ _ (hus _ _ _ hrest), List.append_assoc]

theorem uncut_of_plain (h : ∀ t ∈ ts, opensGroup t = false ∧ t ≠ .closeParen ∧ t ≠ .comma) :
    Uncut ts := by
  intro rest piece more hrest
  refine splitOutside_append_of_forall (fun t ht => by simp [(h t ht).2.2]) ?_
  rwa [depthAfter_of_forall fun t ht => ⟨(h t ht).1, by simp [(h t ht).2.1]⟩]

theorem opensGroup_closeParen (t : Token) (h : (t == .closeParen) = true) :
    opensGroup t = false := by
  obtain rfl := eq_of_beq h
  rfl

theorem uncut_parens (h : balances opensGroup (· == .closeParen) 0 ts) :
    Uncut (.openParen :: (ts ++ [.closeParen])) := by
  intro rest piece more hrest
  rw [List.cons_append, List.append_assoc, List.singleton_append, List.cons_append,
    List.append_assoc, List.singleton_append]
  exact splitOutside_cons rfl
    (splitOutside_append_of_balances opensGroup_closeParen h rfl hrest)

end MediaReader

/-! ### Features -/

/-- Whether a text is read as an identifier as it stands. -/
def isPlainName (s : String) : Bool := startsName s.toList && s.toList.all isNameChar

theorem LexesTo.plainName {s : String} (h : isPlainName s) : LexesTo s.toList [.ident s] where
  normal c hc := isNormal_of_isNameChar (List.all_eq_true.1 (Bool.and_eq_true_iff.1 h).2 c hc)
  tokens_append {r} hr := by
    obtain ⟨hstart, hall⟩ := Bool.and_eq_true_iff.1 h
    rw [tokens_of_readName (startsName_extend hstart r)
      (readName_of_all (List.all_eq_true.1 hall) hr.endsName.readName) hr, String.ofList_toList]
    rfl

namespace MediaFeature

/-- Whether a feature is told from its text: its name is read as it stands, and its value is the
canonical text of tokens that are told from it in parentheses. -/
structure Legible (f : MediaFeature) : Prop where
  name : isPlainName f.name
  value : ∀ v ∈ f.value, ∃ ts, Enclosable opensGroup ts ∧ tokensText ts = v

/-- Whether there is a comma in the value of a feature. -/
def holdsComma (f : MediaFeature) : Bool := f.value.any fun v => (tokenize v).contains .comma

/-- Whether tokens are a feature between its parentheses. -/
def ReadFrom (f : MediaFeature) (ts : List Token) : Prop :=
  ∃ inside, ts = .openParen :: (inside ++ [.closeParen]) ∧
    balances opensGroup (· == .closeParen) 0 inside ∧ ofInside? inside = some f ∧
    inside.contains .comma = f.holdsComma

variable {f : MediaFeature}

namespace ReadFrom

theorem readFeature? (h : f.ReadFrom ts) (r : List Token) :
    MediaReader.readFeature? (ts ++ r) = some (f, r) := by
  obtain ⟨inside, rfl, hbalances, hread, -⟩ := h
  have hsplit := splitAtClose?_of_balances (y := .closeParen) hbalances rfl r
  simp [MediaReader.readFeature?, hsplit, hread]

theorem uncut (h : f.ReadFrom ts) : Uncut ts := by
  obtain ⟨inside, rfl, hbalances, -⟩ := h
  exact uncut_parens hbalances

theorem commas (h : f.ReadFrom ts) : ts.contains .comma = f.holdsComma := by
  obtain ⟨inside, rfl, -, -, hcommas⟩ := h
  rw [List.contains_cons, List.contains_append, hcommas]
  exact Bool.or_false _

theorem tight (h : f.ReadFrom ts) : Tight ts := by
  obtain ⟨inside, rfl, -⟩ := h
  exact ⟨⟨_, _, rfl, rfl⟩, ⟨.openParen :: inside, _, rfl, rfl⟩⟩

end ReadFrom

/-- A name and a value, with blanks around the value. -/
theorem ofInside?_value {name : String} (hbad : ∀ t ∈ us, t.isBad = false)
    (hne : ∃ t ∈ us, t.isBlank = false) :
    ofInside? (.ident name :: .colon :: us) = some ⟨Text.lower name, some (tokensText us)⟩ := by
  obtain ⟨t, ht, hblank⟩ := hne
  have hne : trimBlanks us ≠ [] := fun heq => by
    rw [trimBy_eq_nil_iff.1 heq t ht] at hblank
    cases hblank
  obtain ⟨htight, before, after, hbefore, hafter, heq⟩ := Tight.of_trimBlanks hne
  have hcolon : Tight (.colon :: (before ++ trimBlanks us)) :=
    (Tight.single rfl).sandwich htight before
  have hident : Tight (.ident name :: .colon :: (before ++ trimBlanks us)) :=
    (Tight.single rfl).append hcolon
  have hinside : trimBlanks (.ident name :: .colon :: us) =
      .ident name :: .colon :: (before ++ trimBlanks us) := by
    conv_lhs => rw [heq]
    simpa using hident.trimBlanks_between [] after nofun hafter
  have hvalue : trimBlanks (before ++ trimBlanks us) = trimBlanks us := by
    simpa using htight.trimBlanks_between before [] hbefore nofun
  have hbad : (trimBlanks us).any Token.isBad = false :=
    List.any_eq_false.2 fun t ht => by simp [hbad t (mem_of_mem_trimBy ht)]
  simp only [ofInside?, hinside, hcolon.trimBlanks, hvalue, hbad]
  rw [if_neg (by simpa using hne), tokensText_trimBlanks hne]

theorem opensGroup_form (t : Token) :
    opensGroup t.form.1 = opensGroup t ∧ (t.isBlank → opensGroup t = false) := by
  cases t <;> exact ⟨rfl, by simp [Token.isBlank, opensGroup]⟩

theorem closeParen_form (t : Token) :
    (t.form.1 == .closeParen) = (t == .closeParen) ∧ (t.isBlank → (t == .closeParen) = false) := by
  cases t <;> exact ⟨rfl, by simp [Token.isBlank]⟩

theorem contains_comma_of_forms (h : forms us = forms ts) :
    us.contains .comma = ts.contains .comma := by
  have himp : ∀ {ts us : List Token}, forms us = forms ts → .comma ∈ us → .comma ∈ ts := by
    intro ts us h hmem
    obtain ⟨u, hu, -, hform⟩ := exists_mem_of_forms h hmem rfl
    cases u <;> first | exact hu | cases congrArg Prod.fst hform
  exact Bool.eq_iff_iff.2 (by simpa using ⟨himp h, himp h.symm⟩)

/-- What is read of the name and the value of a legible feature. -/
theorem readFrom_value {name : String} (h : Enclosable opensGroup ts)
    (hforms : forms us = forms ts) (htext : tokensText us = tokensText ts) :
    ReadFrom ⟨Text.lower name, some (tokensText ts)⟩
      (.openParen :: ((.ident name :: .colon :: us) ++ [.closeParen])) := by
  have hbalances : balances opensGroup (· == .closeParen) 0 us :=
    (balances_eq_of_forms opensGroup_form closeParen_form hforms 0).trans h.balances
  have hbad : ∀ t ∈ us, t.isBad = false := by
    intro t ht
    cases hblank : t.isBlank with
    | true => cases t <;> first | rfl | cases hblank
    | false =>
      obtain ⟨u, hu, -, hform⟩ := exists_mem_of_forms hforms ht hblank
      have hsame : ∀ t : Token, t.form.1.isBad = t.isBad := fun t => by cases t <;> rfl
      rw [← hsame t, ← hform, hsame u]
      exact h.isBad_eq_false u hu
  have hne : ∃ t ∈ us, t.isBlank = false := by
    obtain ⟨t, ht, hblank⟩ := h.nonblank
    obtain ⟨u, hu, hblank, -⟩ := exists_mem_of_forms hforms.symm ht hblank
    exact ⟨u, hu, hblank⟩
  have hcommas : us.contains .comma = (tokenize (tokensText ts)).contains .comma :=
    contains_comma_of_forms (hforms.trans (forms_tokensText h.proper h.keeps).symm)
  exact ⟨_, rfl, by simpa [balances, opensGroup] using hbalances,
    by rw [ofInside?_value hbad hne, htext], by simpa [holdsComma] using hcommas⟩

/-- The text of a legible feature is read as the feature. -/
theorem lexesAs (h : f.Legible) (hlower : Text.lower f.name = f.name) :
    LexesAs f.chars f.ReadFrom := by
  have hclose : LexesTo [')'] [.closeParen] := .single (by decide)
  have hname := LexesTo.plainName h.name
  obtain ⟨name, value⟩ := f
  cases value with
  | none =>
    have hread : ofInside? [.ident name] = some ⟨Text.lower name, none⟩ := rfl
    rw [show Text.lower name = name from hlower] at hread
    have hlexes : LexesTo ('(' :: (name.toList ++ [')']))
        (.openParen :: ([.ident name] ++ [.closeParen])) :=
      .cons (by decide) (hname.append hclose fun _ => endsIdent_cons (by decide))
    exact hlexes.lexesAs ⟨[.ident name], rfl, rfl, hread, rfl⟩
  | some v =>
    obtain ⟨ts, hts, rfl⟩ := h.value v rfl
    refine ⟨?_, fun {r} _ => ?_⟩
    · simp only [chars, List.forall_mem_append, List.forall_mem_cons]
      refine ⟨⟨⟨by decide, hname.normal⟩, by decide, by decide, ?_⟩, by decide, nofun⟩
      exact isNormal_tokensText hts.proper hts.keeps
    · obtain ⟨us, hread, hforms, htext⟩ := hts.exists_tokens r
      refine ⟨_, hlower ▸ readFrom_value hts hforms htext, ?_⟩
      simp only [chars, List.append_assoc, List.cons_append, List.nil_append]
      rw [tokens_single (by decide), hname.tokens_append (endsIdent_cons (by decide)),
        List.singleton_append, tokens_single (by decide), hread]
      simp [Lexer.single]

theorem startsToken (f : MediaFeature) (r : List Char) : StartsToken (f.chars ++ r) := by
  unfold chars
  cases f.value <;> exact startsToken_cons (by decide) (by decide) _

end MediaFeature

/-! ### Features after one another -/

/-- Whether tokens are features with an "and" before each, after other tokens. -/
structure MediaReader.Continues (fs : List MediaFeature) (ts : List Token) : Prop where
  reads : readFeatures? ts = some fs
  uncut : Uncut ts
  commas : ts.contains .comma = fs.any MediaFeature.holdsComma
  tight : ∀ {us}, Tight us → Tight (us ++ ts)

theorem MediaReader.readFeatures?_and {f : MediaFeature} (h : f.ReadFrom ts) (r : List Token) :
    readFeatures? (.blank :: .ident "and" :: .blank :: (ts ++ r)) =
      (readFeatures? r).map (f :: ·) := by
  have hread : readFeature? (skipBlanks (.blank :: (ts ++ r))) = some (f, r) := by
    rw [skipBlanks_blank, h.tight.skipBlanks_append, h.readFeature?]
  rw [readFeatures?]
  split
  · rename_i heq
    cases heq
  · rename_i t r' heq
    obtain ⟨rfl, rfl⟩ := List.cons.inj heq
    rw [if_pos (by decide)]
    split
    · rename_i hnone
      cases hread.symm.trans hnone
    · rename_i f' rest hsome
      obtain ⟨rfl, rfl⟩ := Prod.mk.inj (Option.some.inj (hread.symm.trans hsome))
      rfl

theorem MediaReader.separates_and : Separates " and ".toList [.blank, .ident "and", .blank] :=
  separates_word (s := "and") (by decide)

theorem MediaReader.Continues.nil : Continues [] [] where
  reads := by
    rw [readFeatures?]
    rfl
  uncut _ _ _ h := h
  commas := rfl
  tight h := by rwa [List.append_nil]

theorem MediaReader.Continues.cons {f : MediaFeature} {fs : List MediaFeature}
    (h : f.ReadFrom ts) (hus : Continues fs us) :
    Continues (f :: fs) ([.blank, .ident "and", .blank] ++ ts ++ us) where
  reads := by
    have hand := readFeatures?_and h us
    rw [hus.reads] at hand
    simpa using hand
  uncut := by
    have hand : Uncut [.blank, .ident "and", .blank] := uncut_of_plain (by decide)
    exact (hand.append h.uncut).append hus.uncut
  commas := by
    simp only [List.contains_append, h.commas, hus.commas, List.any_cons]
    simp
  tight hbefore := by
    rw [← List.append_assoc, ← List.append_assoc]
    exact hus.tight (hbefore.sandwich h.tight _)

/-! ### Queries -/

namespace MediaQuery

/-- What holds of the queries that are read: types and names of features are in lower case, and a
type that stands alone is none of the words that join queries. -/
structure Valid (q : MediaQuery) : Prop where
  mediaType : ∀ w ∈ q.mediaType, IsLowerName w ∧
    (q.qualifier = none → w ≠ "only" ∧ w ≠ "not" ∧ w ≠ "and" ∧ w ≠ "or")
  features : ∀ f ∈ q.features, Text.lower f.name = f.name
  untyped : q.mediaType = none → q.qualifier = none ∧ q.features ≠ []

/-- Whether tokens are a query. -/
structure ReadFrom (q : MediaQuery) (ts : List Token) : Prop where
  reads : ofTokens? ts = some q
  uncut : Uncut ts
  commas : ts.contains .comma = q.features.any MediaFeature.holdsComma
  tight : Tight ts

/-- The tokens of a type and of the qualifier before it. -/
def typeTokens (qualifier : Option MediaQualifier) (type : String) : List Token :=
  match qualifier with
  | none => [.ident type]
  | some .only => [.ident "only", .blank, .ident type]
  | some .negated => [.ident "not", .blank, .ident type]

/-- The text of a type and of the qualifier before it. -/
def typeChars (qualifier : Option MediaQualifier) (type : String) : List Char :=
  match qualifier with
  | none => Printer.name type.toList
  | some .only => "only ".toList ++ Printer.name type.toList
  | some .negated => "not ".toList ++ Printer.name type.toList

variable {q : MediaQuery} {qualifier : Option MediaQualifier} {type : String}

theorem lexesTo_type (qualifier : Option MediaQualifier) (h : IsName type) :
    LexesTo (typeChars qualifier type) (typeTokens qualifier type) := by
  have hname := LexesTo.name h
  have hstarts : ∀ r, StartsToken (Printer.name type.toList ++ r) := fun r =>
    startsToken_of_startsName (startsName_printed h.noNul (toList_ne_nil h.nonempty) r)
  cases qualifier with
  | none => exact hname
  | some q =>
    cases q with
    | only => exact (LexesTo.word (s := "only") (by decide)).join separates_blank hname hstarts
    | negated => exact (LexesTo.word (s := "not") (by decide)).join separates_blank hname hstarts

theorem contains_comma_typeTokens (qualifier : Option MediaQualifier) (type : String) :
    (typeTokens qualifier type).contains .comma = false := by
  cases qualifier with
  | none => rfl
  | some q => cases q <;> rfl

theorem uncut_typeTokens (qualifier : Option MediaQualifier) (type : String) :
    Uncut (typeTokens qualifier type) ∧ Tight (typeTokens qualifier type) := by
  have hplain : ∀ t ∈ typeTokens qualifier type,
      opensGroup t = false ∧ t ≠ .closeParen ∧ t ≠ .comma := by
    cases qualifier with
    | none => simp [typeTokens, opensGroup]
    | some q => cases q <;> simp [typeTokens, opensGroup]
  refine ⟨uncut_of_plain hplain, ?_⟩
  have htype : Tight [.ident type] := .single rfl
  cases qualifier with
  | none => exact htype
  | some q => cases q <;> exact (Tight.single rfl).sandwich htype [.blank]

theorem readType?_tokens (hlower : Text.lower type = type)
    (hjoins : qualifier = none → type ≠ "only" ∧ type ≠ "not" ∧ type ≠ "and" ∧ type ≠ "or")
    (r : List Token) :
    readType? (typeTokens qualifier type ++ r) = some (qualifier, type, r) := by
  cases qualifier with
  | none =>
    obtain ⟨honly, hnot, hand, hor⟩ := hjoins rfl
    change readType? (.ident type :: r) = _
    rw [readType?]
    simp only [hlower]
  | some q =>
    have honly : Text.lower "only" = "only" := by decide
    have hnot : Text.lower "not" = "not" := by decide
    cases q with
    | only => simp [typeTokens, readType?, honly, skipBlanks_cons (t := .ident type) rfl, hlower]
    | negated => simp [typeTokens, readType?, hnot, skipBlanks_cons (t := .ident type) rfl, hlower]

theorem ofTokens?_type (hlower : Text.lower type = type)
    (hjoins : qualifier = none → type ≠ "only" ∧ type ≠ "not" ∧ type ≠ "and" ∧ type ≠ "or")
    {fs : List MediaFeature} (h : readFeatures? r = some fs) :
    ofTokens? (typeTokens qualifier type ++ r) = some ⟨qualifier, some type, fs⟩ := by
  have hread := readType?_tokens hlower hjoins r
  obtain ⟨word, more, heq⟩ : ∃ word more, typeTokens qualifier type ++ r = .ident word :: more := by
    cases qualifier with
    | none => exact ⟨_, _, rfl⟩
    | some q => cases q <;> exact ⟨_, _, rfl⟩
  rw [heq] at hread ⊢
  simp [ofTokens?, skipBlanks_cons (t := .ident word) rfl, hread, h]

/-- The features of a query after its first part. -/
def moreChars (fs : List MediaFeature) : List Char :=
  fs.flatMap (" and ".toList ++ MediaFeature.chars ·)

theorem ofTokens?_feature {f : MediaFeature} {fs : List MediaFeature} (h : f.ReadFrom ts)
    (hfs : readFeatures? us = some fs) : ofTokens? (ts ++ us) = some ⟨none, none, f :: fs⟩ := by
  have hread := h.readFeature? us
  have hskip := h.tight.skipBlanks_append us
  obtain ⟨inside, rfl, -⟩ := h
  rw [ofTokens?, hskip]
  simp only [List.cons_append] at hread ⊢
  simp [-List.append_assoc, hread, hfs]

theorem intercalate_and (cs : List Char) (fs : List MediaFeature) :
    List.intercalate " and ".toList (cs :: fs.map MediaFeature.chars) = cs ++ moreChars fs := by
  rw [intercalate_cons_eq, List.flatMap_map]
  rfl

theorem chars_typed (qualifier : Option MediaQualifier) (type : String) (fs : List MediaFeature) :
    chars ⟨qualifier, some type, fs⟩ = typeChars qualifier type ++ moreChars fs := by
  have hparts := intercalate_and (Printer.name type.toList) fs
  unfold chars typeChars
  cases qualifier with
  | none => exact hparts
  | some q => cases q <;> exact (congrArg _ hparts).trans (List.append_assoc _ _ _).symm

theorem chars_untyped (f : MediaFeature) (fs : List MediaFeature) :
    chars ⟨none, none, f :: fs⟩ = f.chars ++ moreChars fs :=
  intercalate_and f.chars fs

theorem startsToken_typeChars (h : IsName type) (r : List Char) :
    StartsToken (typeChars qualifier type ++ r) := by
  cases qualifier with
  | none =>
    exact startsToken_of_startsName (startsName_printed h.noNul (toList_ne_nil h.nonempty) r)
  | some q => cases q <;> exact startsToken_cons (by decide) (by decide) _

theorem startsToken (h : q.Valid) (r : List Char) : StartsToken (q.chars ++ r) := by
  obtain ⟨qualifier, mediaType, fs⟩ := q
  cases mediaType with
  | some type =>
    rw [chars_typed, List.append_assoc]
    exact startsToken_typeChars (h.mediaType type rfl).1.toIsName _
  | none =>
    obtain ⟨hqualifier, hne⟩ := h.untyped rfl
    obtain rfl : qualifier = none := hqualifier
    cases fs with
    | nil => exact absurd rfl hne
    | cons f fs =>
      rw [chars_untyped, List.append_assoc]
      exact f.startsToken _

/-- The text of a valid query with legible features is read as the query. -/
theorem lexesAs (h : q.Valid) (hlegible : ∀ f ∈ q.features, f.Legible) :
    LexesAs q.chars q.ReadFrom := by
  have hfeatures : ∀ f ∈ q.features, LexesAs f.chars f.ReadFrom := fun f hf =>
    MediaFeature.lexesAs (hlegible f hf) (h.features f hf)
  obtain ⟨qualifier, mediaType, fs⟩ := q
  cases mediaType with
  | some type =>
    obtain ⟨htype, hjoins⟩ := h.mediaType type rfl
    have hlexes := (lexesTo_type qualifier htype.toIsName).lexesAs
      (P := (· = typeTokens qualifier type)) rfl
    rw [chars_typed]
    refine .join separates_and hfeatures (fun f _ => f.startsToken) Continues.nil Continues.cons
      hlexes ?_
    rintro _ ts rfl hts
    obtain ⟨huncut, htight⟩ := uncut_typeTokens qualifier type
    refine ⟨ofTokens?_type htype.lower hjoins hts.reads, huncut.append hts.uncut, ?_,
      hts.tight htight⟩
    rw [List.contains_append, contains_comma_typeTokens, hts.commas, Bool.false_or]
  | none =>
    obtain ⟨hqualifier, hne⟩ := h.untyped rfl
    obtain rfl : qualifier = none := hqualifier
    cases fs with
    | nil => exact absurd rfl hne
    | cons f fs =>
      rw [chars_untyped]
      refine .join separates_and (fun g hg => hfeatures g (List.mem_cons_of_mem f hg))
        (fun g _ => g.startsToken) Continues.nil Continues.cons (hfeatures f List.mem_cons_self) ?_
      intro ts us hts hus
      refine ⟨ofTokens?_feature hts hus.reads, hts.uncut.append hus.uncut, ?_, hus.tight hts.tight⟩
      rw [List.contains_append, hts.commas, hus.commas, List.any_cons]

end MediaQuery

/-! ### Lists -/

namespace MediaList

/-- Whether tokens are queries with a comma before each, after other tokens. -/
structure Continues (qs : List MediaQuery) (ts : List Token) : Prop where
  reads : ∃ more, pieces ts = [] :: more ∧ more.map MediaQuery.ofTokens = qs
  tight : ∀ {us}, Tight us → Tight (us ++ ts)

theorem ofTokens_of_readFrom {q : MediaQuery} (h : q.ReadFrom ts) : MediaQuery.ofTokens ts = q := by
  rw [MediaQuery.ofTokens, h.reads, Option.getD_some]

theorem Continues.nil : Continues [] [] where
  reads := ⟨[], rfl, rfl⟩
  tight h := by rwa [List.append_nil]

theorem Continues.cons {q : MediaQuery} {qs : List MediaQuery} (h : q.ReadFrom ts)
    (hus : Continues qs us) : Continues (q :: qs) ([.comma, .blank] ++ ts ++ us) := by
  obtain ⟨⟨more, hmore, rfl⟩, htight⟩ := hus
  have hpieces : pieces (.blank :: (ts ++ us)) = (.blank :: ts) :: more := by
    have hsplit := h.uncut us [] more hmore
    rw [List.append_nil] at hsplit
    exact splitOutside_cons rfl hsplit
  refine ⟨⟨(.blank :: ts) :: more, ?_, ?_⟩, fun hbefore => ?_⟩
  · rw [← hpieces]
    rfl
  · rw [List.map_cons, ← ofTokens_of_readFrom h]
    rfl
  · rw [← List.append_assoc, ← List.append_assoc]
    exact htight (hbefore.sandwich h.tight _)

theorem ofTokens_of_tight (h : Tight ts) :
    ofTokens ts = ⟨(pieces ts).map MediaQuery.ofTokens⟩ := by
  rw [ofTokens, h.trimBlanks]
  obtain ⟨t, r, rfl, -⟩ := h.head
  rfl

/-- The text of valid queries with legible features is read as the queries. -/
theorem ofString_text {l : MediaList} (h : ∀ q ∈ l.queries, q.Valid)
    (hlegible : ∀ q ∈ l.queries, ∀ f ∈ q.features, f.Legible) : ofString l.text = l := by
  obtain ⟨qs⟩ := l
  cases qs with
  | nil => exact (LexesTo.nil.lexesAs (P := fun ts => ofTokens ts = ⟨[]⟩) rfl).tokenize
  | cons q qs =>
    have hqueries : ∀ p ∈ q :: qs, LexesAs p.chars p.ReadFrom := fun p hp =>
      MediaQuery.lexesAs (h p hp) (hlegible p hp)
    have hlist : LexesAs (chars ⟨q :: qs⟩) fun ts => ofTokens ts = ⟨q :: qs⟩ := by
      rw [chars, List.map_cons, intercalate_cons_eq, List.flatMap_map]
      refine .join SelectorList.separates_comma (fun p hp => hqueries p (List.mem_cons_of_mem q hp))
        (fun p hp => MediaQuery.startsToken (h p (List.mem_cons_of_mem q hp)))
        Continues.nil Continues.cons (hqueries q List.mem_cons_self) ?_
      rintro ts us hts ⟨⟨more, hpieces, rfl⟩, htight⟩
      have hsplit : pieces (ts ++ us) = ts :: more := by
        simpa using hts.uncut us [] more hpieces
      rw [ofTokens_of_tight (htight hts.tight), hsplit, List.map_cons, ofTokens_of_readFrom hts]
    exact hlist.tokenize

end MediaList

end WebStyle
