import WebStyle.Media.Parser
import WebStyle.Proofs.Cursor.Tokens
/-!
Media queries by positions. A list is trimmed before it is cut at its commas, and so is each query.
-/
set_option autoImplicit false

namespace WebStyle.Cursor

open WebStyle.MediaReader

/-- The index of the next token that is not blank, which has to be there. -/
def nextAt (tokens : List Token) (pos : Nat) : Checked Nat := do
  let next ← skipBlanksAt tokens pos
  if next < tokens.length then .ok next else .error .refused

/-- A feature, from what stands between its parentheses. -/
def featureInside (ts : List Token) : Checked MediaFeature := do
  match ← trim ts with
  | .ident name :: r =>
    match ← trim r with
    | [] => .ok ⟨Text.lower name, none⟩
    | .colon :: value =>
      let value ← trim value
      if value.isEmpty || value.any Token.isBad then .error .refused
      else .ok ⟨Text.lower name, some (String.ofList (← text value))⟩
    | _ => .error .refused
  | _ => .error .refused

/-- A feature from its opening parenthesis on. -/
def featureAt (tokens : List Token) (pos : Nat) : Checked (MediaFeature × Nat) := do
  match tokens[pos]? with
  | some .openParen =>
    match ← closeAt 0 (pos + 1) (tokens.drop (pos + 1)) with
    | some close => .ok (← featureInside (← slice tokens (pos + 1) close), close + 1)
    | none => .error .refused
  | _ => .error .refused

/-- Reads an `and` and the feature after it. -/
def featuresStep (tokens : List Token) :
    List MediaFeature × Nat → Checked ((List MediaFeature × Nat) ⊕ List MediaFeature)
  | (seen, pos) => do
    let pos ← skipBlanksAt tokens pos
    if pos < tokens.length then
      if (← index tokens pos).isIdent "and" then
        let (f, next) ← featureAt tokens (← nextAt tokens (pos + 1))
        .ok (.inl (seen ++ [f], next))
      else .error .refused
    else .ok (.inr seen)

/-- The type after a qualifier. -/
def qualifiedAt (tokens : List Token) (q : MediaQualifier) (pos : Nat) :
    Checked ((Option MediaQualifier × String) × Nat) := do
  let pos ← nextAt tokens pos
  match ← index tokens pos with
  | .ident type => .ok ((some q, Text.lower type), pos + 1)
  | _ => .error .refused

/-- The type that a word is, or the one after it if it is a qualifier. -/
def mediaTypeAt (tokens : List Token) (word : String) (pos : Nat) :
    Checked ((Option MediaQualifier × String) × Nat) :=
  match Text.lower word with
  | "only" => qualifiedAt tokens .only (pos + 1)
  | "not" => qualifiedAt tokens .negated (pos + 1)
  | "and" | "or" => .error .refused
  | word => .ok ((none, word), pos + 1)

def wholeQuery (tokens : List Token) : Checked MediaQuery := do
  let first ← nextAt tokens 0
  match ← index tokens first with
  | .ident word =>
    let ((qualifier, type), pos) ← mediaTypeAt tokens word first
    .ok ⟨qualifier, some type, ← loop (featuresStep tokens) (tokens.length + 1) ([], pos)⟩
  | _ =>
    let (f, pos) ← featureAt tokens first
    .ok ⟨none, none, ← loop (featuresStep tokens) (tokens.length + 1) ([f], pos)⟩

/-- The query of a run of tokens; one that matches nothing if they make none. -/
def mediaQuery (tokens : List Token) : Checked MediaQuery := do
  match ← attempt (wholeQuery (← trim tokens)) with
  | some q => .ok q
  | none => .ok MediaQuery.notAll

def mediaList (tokens : List Token) : Checked MediaList := do
  let tokens ← trim tokens
  if tokens.isEmpty then .ok MediaList.empty
  else
    let pieces ← piecesAt opensGroup (· == .closeParen) (· == .comma) tokens 0 0 0 tokens
    .ok ⟨← pieces.mapM mediaQuery⟩

section Query
variable {tokens r : List Token} {pos rounds : Nat}

theorem nextAt_cons {t : Token} {u : List Token} (h : At tokens pos r)
    (hr : skipBlanks r = t :: u) :
    ∃ next, nextAt tokens pos = .ok next ∧ At tokens next (t :: u) := by
  obtain ⟨next, hskip, hnext⟩ := skipBlanksAt_at h
  rw [hr] at hnext
  exact ⟨next, by simp [nextAt, hskip, hnext.lt], hnext⟩

theorem nextAt_nil (h : At tokens pos r) (hr : skipBlanks r = []) :
    nextAt tokens pos = .error .refused := by
  obtain ⟨next, hskip, hnext⟩ := skipBlanksAt_at h
  rw [hr] at hnext
  simp [nextAt, hskip, hnext.eq_length]

theorem featureInside_eq (ts : List Token) : featureInside ts = ofOption (ofInside? ts) := by
  simp only [featureInside, trim_eq, ok_bind, text_eq, String.ofList_toList, ofInside?]
  rcases trimBlanks ts with _ | ⟨t, r⟩
  · rfl
  · cases t with
    | ident name =>
      simp only
      rcases trimBlanks r with _ | ⟨t, value⟩
      · rfl
      · cases t with
        | colon =>
          simp only
          split <;> rfl
        | _ => rfl
    | _ => rfl

theorem opensGroup_eq : opensGroup = Token.opensArguments := by
  funext t
  cases t <;> rfl

theorem featureAt_follows (h : At tokens pos r) :
    Follows tokens (featureAt tokens pos) (readFeature? r) := by
  unfold featureAt readFeature?
  rw [h.getElem?]
  rcases r with _ | ⟨t, r⟩
  · rfl
  · cases t with
    | openParen =>
      simp only [List.getElem?_cons_zero, h.next.drop, closeAt_eq, ok_bind, opensGroup_eq]
      cases hsplit : splitAtClose? Token.opensArguments (· == .closeParen) 0 r with
      | none => rfl
      | some p =>
        obtain ⟨hslice, hnext⟩ := h.next.group hsplit
        simp only [Option.map_some, hslice, ok_bind, featureInside_eq, Option.bind_eq_bind,
          Option.bind_some]
        cases ofInside? p.1 with
        | none => rfl
        | some f => exact .of_at hnext _
    | _ => rfl

theorem featuresStep_end (h : At tokens pos r) (hr : skipBlanks r = [])
    (seen : List MediaFeature) : featuresStep tokens (seen, pos) = .ok (.inr seen) := by
  obtain ⟨next, hskip, hnext⟩ := skipBlanksAt_at h
  rw [hr] at hnext
  simp [featuresStep, hskip, hnext.eq_length]

theorem featuresStep_refused {t : Token} {u : List Token} (h : At tokens pos r)
    (hr : skipBlanks r = t :: u) (ht : t.isIdent "and" = false) (seen : List MediaFeature) :
    featuresStep tokens (seen, pos) = .error .refused := by
  obtain ⟨next, hskip, hnext⟩ := skipBlanksAt_at h
  rw [hr] at hnext
  simp [featuresStep, hskip, hnext.lt, hnext.index, ht]

/-- A step over an `and`. -/
theorem featuresStep_and {t : Token} {u : List Token} (h : At tokens pos r)
    (hr : skipBlanks r = t :: u) (ht : t.isIdent "and") (seen : List MediaFeature) :
    match readFeature? (skipBlanks u) with
    | some (f, rest) => ∃ next, At tokens next rest ∧
        featuresStep tokens (seen, pos) = .ok (.inl (seen ++ [f], next))
    | none => featuresStep tokens (seen, pos) = .error .refused := by
  obtain ⟨next, hskip, hnext⟩ := skipBlanksAt_at h
  rw [hr] at hnext
  simp only [featuresStep, hskip, ok_bind, hnext.lt, if_true, hnext.index, ht]
  cases hu : skipBlanks u with
  | nil =>
    rw [nextAt_nil hnext.next hu]
    rfl
  | cons v w =>
    obtain ⟨opening, hopening, hat⟩ := nextAt_cons hnext.next hu
    have hfeature := featureAt_follows hat
    rw [hopening]
    cases hread : readFeature? (v :: w) with
    | none =>
      rw [hread] at hfeature
      simp [hfeature.refused]
    | some p =>
      rw [hread] at hfeature
      obtain ⟨next, hfeature, hnext⟩ := hfeature
      exact ⟨next, hnext, by simp [hfeature]⟩

theorem loop_features (h : At tokens pos r) (hrounds : r.length < rounds)
    (seen : List MediaFeature) :
    loop (featuresStep tokens) rounds (seen, pos) =
      ofOption ((readFeatures? r).map (seen ++ ·)) := by
  fun_induction readFeatures? r generalizing pos rounds seen with
  | case1 ts hs =>
    rw [loop_inr (by omega) (featuresStep_end h hs seen)]
    simp [ofOption]
  | case2 ts t r hs ht hf =>
    have hstep := featuresStep_and h hs ht seen
    rw [hf] at hstep
    exact loop_error (by omega) hstep
  | case3 ts t r hs ht f rest hf hlt ih =>
    have hstep := featuresStep_and h hs ht seen
    rw [hf] at hstep
    obtain ⟨next, hnext, hstep⟩ := hstep
    rw [loop_inl _ (by omega) hstep, ih hnext (by omega)]
    simp [Function.comp_def]
  | case4 ts t r hs ht =>
    exact loop_error (by omega) (featuresStep_refused h hs (Bool.eq_false_iff.2 ht) seen)

theorem qualifiedAt_follows (h : At tokens pos r) (q : MediaQualifier) :
    Follows tokens (qualifiedAt tokens q pos)
      (match skipBlanks r with
        | .ident type :: r => some ((some q, Text.lower type), r)
        | _ => none) := by
  unfold qualifiedAt
  cases hr : skipBlanks r with
  | nil =>
    rw [nextAt_nil h hr]
    rfl
  | cons t u =>
    obtain ⟨next, hnext, hat⟩ := nextAt_cons h hr
    rw [hnext, ok_bind, hat.index, ok_bind]
    cases t with
    | ident type => exact .of_at hat.next _
    | _ => rfl

theorem mediaTypeAt_follows {word : String} (h : At tokens pos (.ident word :: r)) :
    Follows tokens (mediaTypeAt tokens word pos)
      ((readType? (.ident word :: r)).map fun p => ((p.1, p.2.1), p.2.2)) := by
  have hqualified : ∀ q : MediaQualifier, Follows tokens (qualifiedAt tokens q (pos + 1))
      ((match skipBlanks r with
        | .ident type :: r => some (some q, Text.lower type, r)
        | _ => none : Option (Option MediaQualifier × String × List Token)).map
          fun p => ((p.1, p.2.1), p.2.2)) := by
    intro q
    have hread := qualifiedAt_follows h.next q
    revert hread
    split <;> exact id
  simp only [mediaTypeAt, readType?]
  generalize Text.lower word = lower
  by_cases honly : lower = "only"
  · subst honly
    exact hqualified _
  · by_cases hnot : lower = "not"
    · subst hnot
      exact hqualified _
    · by_cases hand : lower = "and"
      · subst hand
        rfl
      · by_cases hor : lower = "or"
        · subst hor
          rfl
        · simp only
          exact .of_at h.next _

theorem wholeQuery_eq (tokens : List Token) :
    wholeQuery tokens = ofOption (MediaQuery.ofTokens? tokens) := by
  unfold wholeQuery MediaQuery.ofTokens?
  cases hskip : skipBlanks tokens with
  | nil =>
    rw [nextAt_nil (.start tokens) hskip]
    rfl
  | cons t r =>
    obtain ⟨first, hfirst, hat⟩ := nextAt_cons (.start tokens) hskip
    rw [hfirst, ok_bind, hat.index, ok_bind]
    split
    · have htype := mediaTypeAt_follows hat
      cases hread : readType? (.ident _ :: r) with
      | none =>
        rw [hread] at htype
        rw [htype.refused]
        simp [ofOption, hread]
      | some p =>
        rw [hread] at htype
        obtain ⟨next, htype, hnext⟩ := htype
        rw [htype]
        simp only [ok_bind, loop_features hnext hnext.lt_rounds]
        cases hfs : readFeatures? p.2.2 <;> simp [ofOption, hread, hfs]
    · rename_i hident
      have hfeature := featureAt_follows hat
      split
      · rename_i name u heq
        exact (hident name (List.cons.inj heq).1).elim
      · cases hread : readFeature? (t :: r) with
        | none =>
          rw [hread] at hfeature
          rw [hfeature.refused]
          simp [ofOption]
        | some p =>
          rw [hread] at hfeature
          obtain ⟨next, hfeature, hnext⟩ := hfeature
          rw [hfeature]
          simp only [ok_bind, loop_features hnext hnext.lt_rounds]
          cases hfs : readFeatures? p.2 <;> simp [ofOption, hfs]

end Query

/-! ### Blanks around a query -/

section Blanks
variable {ts bs : List Token}

theorem splitAtClose?_append_of_open {opens closes : Token → Bool}
    (hbs : ∀ b ∈ bs, closes b = false) (depth : Nat) (ts : List Token) :
    splitAtClose? opens closes depth (ts ++ bs) =
      (splitAtClose? opens closes depth ts).map fun p => (p.1, p.2 ++ bs) := by
  have hnone : ∀ (us : List Token), (∀ b ∈ us, closes b = false) → ∀ depth,
      splitAtClose? opens closes depth us = none := by
    intro us hus
    induction us with
    | nil => exact fun _ => rfl
    | cons b us ih =>
      intro depth
      simp [splitAtClose?, hus b List.mem_cons_self,
        ih fun b hb => hus b (List.mem_cons_of_mem _ hb)]
  induction ts generalizing depth with
  | nil => exact hnone bs hbs depth
  | cons t ts ih =>
    simp only [List.cons_append, splitAtClose?, ih]
    split
    · cases depth with
      | zero => rfl
      | succ depth => simp [Function.comp_def]
    · simp [Function.comp_def]

theorem skipBlanks_append (hbs : ∀ b ∈ bs, b.isBlank) (ts : List Token) :
    skipBlanks (ts ++ bs) = if (skipBlanks ts).isEmpty then [] else skipBlanks ts ++ bs := by
  rw [skipBlanks, List.dropWhile_append, List.dropWhile_eq_nil_iff.2 hbs]

theorem readFeature?_append (hbs : ∀ b ∈ bs, b.isBlank) (ts : List Token) :
    readFeature? (ts ++ bs) = (readFeature? ts).map fun p => (p.1, p.2 ++ bs) := by
  have hclose : ∀ b ∈ bs, (b == Token.closeParen) = false := by
    intro b hb
    have := hbs b hb
    cases b <;> simp_all [Token.isBlank]
  cases ts with
  | nil =>
    cases bs with
    | nil => rfl
    | cons b bs =>
      have := hbs b List.mem_cons_self
      cases b <;> simp_all [Token.isBlank, readFeature?]
  | cons t ts =>
    cases t with
    | openParen =>
      simp only [List.cons_append, readFeature?, splitAtClose?_append_of_open hclose]
      cases splitAtClose? opensGroup (· == .closeParen) 0 ts with
      | none => rfl
      | some p => cases hf : ofInside? p.1 <;> simp [hf]
    | _ => rfl

theorem readFeature?_skipBlanks_append (hbs : ∀ b ∈ bs, b.isBlank) (ts : List Token) :
    readFeature? (skipBlanks (ts ++ bs)) =
      (readFeature? (skipBlanks ts)).map fun p => (p.1, p.2 ++ bs) := by
  rw [skipBlanks_append hbs]
  cases skipBlanks ts with
  | nil => rfl
  | cons t r => exact readFeature?_append hbs (t :: r)

theorem readFeatures?_eq (ts : List Token) : readFeatures? ts =
    match skipBlanks ts with
    | [] => some []
    | t :: r =>
      if t.isIdent "and" then
        (readFeature? (skipBlanks r)).bind fun p => (readFeatures? p.2).map (p.1 :: ·)
      else none := by
  rw [readFeatures?]
  split
  · simp [*]
  · rename_i hs
    simp only [hs]
    split
    · split <;> simp [*]
    · rfl

theorem readFeatures?_append (hbs : ∀ b ∈ bs, b.isBlank) (ts : List Token) :
    readFeatures? (ts ++ bs) = readFeatures? ts := by
  fun_induction readFeatures? ts with
  | case1 ts hs => rw [readFeatures?_eq, skipBlanks_append hbs, hs]; rfl
  | case2 ts t r hs ht hf =>
    rw [readFeatures?_eq, skipBlanks_append hbs, hs]
    simp [ht, readFeature?_skipBlanks_append hbs, hf]
  | case3 ts t r hs ht f rest hf hlt ih =>
    rw [readFeatures?_eq, skipBlanks_append hbs, hs]
    simp [ht, readFeature?_skipBlanks_append hbs, hf, ih]
  | case4 ts t r hs ht =>
    rw [readFeatures?_eq, skipBlanks_append hbs, hs]
    simp [ht]

theorem readType?_append (hbs : ∀ b ∈ bs, b.isBlank) (word : String) (ts : List Token) :
    readType? (.ident word :: (ts ++ bs)) =
      (readType? (.ident word :: ts)).map fun p => (p.1, p.2.1, p.2.2 ++ bs) := by
  simp only [readType?, skipBlanks_append hbs]
  cases skipBlanks ts with
  | nil => split <;> rfl
  | cons t r => cases t <;> split <;> rfl

theorem ofTokens?_append (hbs : ∀ b ∈ bs, b.isBlank) (ts : List Token) :
    MediaQuery.ofTokens? (ts ++ bs) = MediaQuery.ofTokens? ts := by
  unfold MediaQuery.ofTokens?
  rw [skipBlanks_append hbs]
  cases skipBlanks ts with
  | nil => rfl
  | cons t r =>
    have hfeature : (readFeature? (t :: r ++ bs)).bind (fun p =>
        (readFeatures? p.2).bind fun fs => some (⟨none, none, p.1 :: fs⟩ : MediaQuery)) =
        (readFeature? (t :: r)).bind fun p =>
          (readFeatures? p.2).bind fun fs => some ⟨none, none, p.1 :: fs⟩ := by
      rw [readFeature?_append hbs, Option.bind_map]
      simp [Function.comp_def, readFeatures?_append hbs]
    cases t with
    | ident word =>
      simp only [List.isEmpty_cons, Bool.false_eq_true, if_false, List.cons_append,
        readType?_append hbs]
      cases readType? (.ident word :: r) with
      | none => rfl
      | some p => simp [readFeatures?_append hbs]
    | _ => exact hfeature

end Blanks

theorem ofTokens?_trimBlanks (ts : List Token) :
    MediaQuery.ofTokens? (trimBlanks ts) = MediaQuery.ofTokens? ts := by
  have hskip : ∀ {us vs : List Token}, skipBlanks us = skipBlanks vs →
      MediaQuery.ofTokens? us = MediaQuery.ofTokens? vs := by
    intro us vs h
    unfold MediaQuery.ofTokens?
    rw [h]
  by_cases hnil : trimBlanks ts = []
  · rw [hnil]
    exact hskip (List.dropWhile_eq_nil_iff.2 (trimBy_eq_nil_iff.1 hnil)).symm
  · obtain ⟨-, before, after, hbefore, hafter, heq⟩ := Tight.of_trimBlanks hnil
    conv => rhs; rw [heq]
    rw [ofTokens?_append hafter]
    exact hskip (by rw [skipBlanks, skipBlanks, List.dropWhile_append_of_pos hbefore])

theorem mediaQuery_eq (ts : List Token) : mediaQuery ts = .ok (MediaQuery.ofTokens ts) := by
  rw [mediaQuery, trim_eq, ok_bind, wholeQuery_eq, attempt_ofOption, ofTokens?_trimBlanks,
    MediaQuery.ofTokens]
  cases MediaQuery.ofTokens? ts <;> rfl

theorem mediaList_eq (ts : List Token) : mediaList ts = .ok (MediaList.ofTokens ts) := by
  have hcomma : ∀ t : Token, (t == .comma) → opensGroup t = false ∧ (t == .closeParen) = false := by
    intro t ht
    obtain rfl := beq_iff_eq.1 ht
    exact ⟨rfl, rfl⟩
  have hqueries : ∀ pieces : List (List Token),
      pieces.mapM mediaQuery = .ok (pieces.map MediaQuery.ofTokens) := by
    intro pieces
    induction pieces with
    | nil => rfl
    | cons piece pieces ih =>
      rw [List.mapM_cons, mediaQuery_eq, ih]
      rfl
  simp only [mediaList, trim_eq, ok_bind, piecesAt_start hcomma, hqueries, MediaList.ofTokens]
  cases trimBlanks ts <;> rfl

end WebStyle.Cursor
