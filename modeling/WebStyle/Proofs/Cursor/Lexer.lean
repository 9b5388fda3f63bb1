import WebStyle.Proofs.Cursor.Characters
import WebStyle.Proofs.Number.Printed
import WebStyle.Proofs.Token.Proper
/-!
Numbers and tokens by positions. The text of a number is the slice up to where its parts end, and
what follows it makes no difference to its value.
-/
set_option autoImplicit false

namespace WebStyle.Cursor

open WebStyle.Numeral

/-! ### A number without what follows it -/

/-- Whether a reader makes the same of what it takes where less follows. -/
def IgnoresRest {β : Type} (f : List Char → β × List Char) : Prop :=
  ∀ {taken rest less : List Char} {b : β}, f (taken ++ rest) = (b, rest) → less <+: rest →
    f (taken ++ less) = (b, less)

theorem readSign_of_forall {cs : List Char} (h : ∀ c ∈ cs.head?, c ≠ '+' ∧ c ≠ '-') :
    readSign cs = (none, cs) := by
  unfold readSign
  split
  · exact absurd rfl (h '+' rfl).1
  · exact absurd rfl (h '-' rfl).2
  · rfl

theorem head?_of_isPrefix {less rest : List Char} {c : Char} (h : less <+: rest)
    (hc : c ∈ less.head?) : c ∈ rest.head? := by
  obtain ⟨more, rfl⟩ := h
  cases less with
  | nil => cases hc
  | cons d less => exact hc

theorem cons_append_ne (c : Char) (taken rest : List Char) : c :: taken ++ rest ≠ rest := by
  intro h
  have := congrArg List.length h
  simp only [List.cons_append, List.length_cons, List.length_append] at this
  omega

theorem ignoresRest_readSign : IgnoresRest readSign := by
  intro taken rest less b h hless
  cases taken with
  | nil =>
    have hhead : ∀ c ∈ rest.head?, c ≠ '+' ∧ c ≠ '-' := by
      intro c hc
      cases rest with
      | nil => cases hc
      | cons d rest =>
        obtain rfl := Option.some.inj hc
        constructor <;> rintro rfl <;> simp [readSign] at h
    obtain ⟨rfl, -⟩ := Prod.mk.inj ((readSign_of_forall hhead).symm.trans h)
    exact readSign_of_forall fun c hc => hhead c (head?_of_isPrefix hless hc)
  | cons c taken =>
    by_cases hc : c ≠ '+' ∧ c ≠ '-'
    · rw [readSign_of_forall (by rintro d ⟨⟩; exact hc)] at h
      exact absurd (Prod.mk.inj h).2 (cons_append_ne c taken rest)
    · rw [List.cons_append] at h ⊢
      by_cases hplus : c = '+'
      · subst hplus
        simp_all [readSign]
      · obtain rfl : c = '-' := by simpa [hplus] using hc
        simp_all [readSign]

theorem ignoresRest_readDigits : IgnoresRest readDigits := by
  intro taken rest less b h hless
  obtain ⟨hb, hrest⟩ := Prod.mk.inj h
  have htaken : taken = b := by
    have happend := List.takeWhile_append_dropWhile (p := Char.isDigit) (l := taken ++ rest)
    rw [hb, hrest] at happend
    exact (List.append_cancel_right happend).symm
  subst htaken
  refine readDigits_of_forall (fun c hc => List.mem_takeWhile_imp (hb ▸ hc)) fun c hc => ?_
  have hnot := List.head?_dropWhile_not Char.isDigit (taken ++ rest)
  rw [hrest, Option.mem_def.1 (head?_of_isPrefix hless hc)] at hnot
  exact hnot

theorem readDigits_fst_eq_nil_iff {r : List Char} :
    (readDigits r).1 = [] ↔ (r[0]?).any Char.isDigit = false := by
  cases r with
  | nil => simp [readDigits]
  | cons c r => cases hc : c.isDigit <;> simp [readDigits, hc]

theorem readFraction?_eq (r : List Char) :
    readFraction? r =
      if r[0]? == some '.' && (r[1]?).any Char.isDigit then some (readDigits (r.drop 1))
      else none := by
  unfold readFraction?
  split
  · rename_i u
    have hiff := readDigits_fst_eq_nil_iff (r := u)
    simp only [List.getElem?_cons_zero, List.getElem?_cons_succ, List.drop_one, List.tail_cons]
    cases hany : (u[0]?).any Char.isDigit <;> simp only [hany] at hiff <;> split <;> simp_all
  · rename_i hdot
    rw [if_neg]
    intro h
    cases r with
    | nil => simp at h
    | cons c r => simp_all

theorem readExponent?_eq (r : List Char) :
    readExponent? r =
      if (r[0]? == some 'e' || r[0]? == some 'E') &&
          ((readSign (r.drop 1)).2[0]?).any Char.isDigit then
        let ds := readDigits (readSign (r.drop 1)).2
        some
          (Binary64.signed ((readSign (r.drop 1)).1 == some .minus) (Text.digitsValue ds.1), ds.2)
      else none := by
  unfold readExponent?
  cases r with
  | nil => rfl
  | cons c r =>
    have hiff := readDigits_fst_eq_nil_iff (r := (readSign r).2)
    simp only [List.getElem?_cons_zero, List.drop_one, List.tail_cons]
    cases hany : ((readSign r).2[0]?).any Char.isDigit <;> simp only [hany] at hiff <;>
      split <;> split <;> simp_all

theorem ignoresRest_fraction : IgnoresRest fun r => (readFraction? r).getD ([], r) := by
  intro taken rest less b h hless
  dsimp only at h ⊢
  cases hfraction : readFraction? (taken ++ rest) with
  | none =>
    rw [hfraction] at h
    obtain ⟨rfl, hrest⟩ := Prod.mk.inj h
    obtain rfl : taken = [] := by simpa using congrArg List.length hrest
    have hnone : readFraction? less = none := by
      obtain ⟨more, rfl⟩ := hless
      rw [List.nil_append, readFraction?_eq] at hfraction
      rw [readFraction?_eq]
      rcases less with _ | ⟨c, _ | ⟨d, less⟩⟩
      · rfl
      · simp
      · simpa using hfraction
    simp [hnone]
  | some p =>
    rw [hfraction] at h
    obtain rfl : p = (b, rest) := h
    have hlt := readFraction?_length_lt hfraction
    cases taken with
    | nil => simp at hlt
    | cons c taken =>
      rw [readFraction?_eq] at hfraction
      split at hfraction
      · rename_i hdot
        simp only [List.cons_append, List.getElem?_cons_zero, List.getElem?_cons_succ,
          List.drop_one, List.tail_cons, Option.some.injEq, Bool.and_eq_true,
          beq_iff_eq] at hdot hfraction
        obtain ⟨rfl, hdigit⟩ := hdot
        have hb : b ≠ [] := by
          rintro rfl
          have := readDigits_fst_eq_nil_iff.1 (congrArg Prod.fst hfraction)
          simp [this] at hdigit
        rw [List.cons_append, readFraction?, ignoresRest_readDigits hfraction hless]
        split
        · simp_all
        · simp_all
      · cases hfraction

/-- A reader inside of what is taken takes a part of it. -/
theorem exists_taken {taken rest u : List Char} (hu : u <:+ taken ++ rest) (hrest : rest <:+ u) :
    ∃ first last, taken = first ++ last ∧ u = last ++ rest := by
  obtain ⟨last, rfl⟩ := hrest
  obtain ⟨first, hfirst⟩ := hu
  rw [← List.append_assoc] at hfirst
  exact ⟨first, last, (List.append_cancel_right hfirst).symm, rfl⟩

theorem readExponent?_taken {taken rest : List Char} {e : Int}
    (h : readExponent? (taken ++ rest) = some (e, rest)) : readExponent? taken = some (e, []) := by
  have hlt := readExponent?_length_lt h
  cases taken with
  | nil => simp at hlt
  | cons c taken =>
    have hsuffix := readSign_suffix (taken ++ rest)
    rw [List.cons_append, readExponent?_eq] at h
    rw [readExponent?_eq]
    simp only [List.getElem?_cons_zero, List.drop_one, List.tail_cons] at h ⊢
    cases hsign : readSign (taken ++ rest) with
    | mk sign u =>
      rw [hsign] at h hsuffix
      split at h
      · rename_i hmark
        cases hdigits : readDigits u with
        | mk ds v =>
          rw [hdigits] at h
          obtain ⟨rfl, rfl⟩ := Prod.mk.inj (Option.some.inj h)
          have hinner := readDigits_suffix u
          rw [hdigits] at hinner
          obtain ⟨first, last, rfl, rfl⟩ := exists_taken hsuffix hinner
          rw [List.append_assoc] at hsign
          rw [ignoresRest_readSign hsign (List.prefix_append last v)]
          have hlast := ignoresRest_readDigits hdigits List.nil_prefix
          rw [List.append_nil] at hlast
          rw [hlast]
          rw [Bool.and_eq_true] at hmark
          rw [if_pos]
          rw [Bool.and_eq_true]
          refine ⟨hmark.1, ?_⟩
          by_contra hno
          have := readDigits_fst_eq_nil_iff.2 (by simpa using hno)
          rw [hlast] at this
          have := readDigits_fst_eq_nil_iff.1 ((congrArg Prod.fst hdigits).trans this)
          simp [this] at hmark
      · cases h

/-- The text of a number alone is read as the same number. -/
theorem read_taken {taken rest : List Char} {n : Numeral}
    (h : Numeral.read (taken ++ rest) = (n, rest)) : Numeral.read taken = (n, []) := by
  -- What each part leaves is what the later parts take, with the rest behind it.
  have hsign := readSign_suffix (taken ++ rest)
  have hdigits := readDigits_suffix (readSign (taken ++ rest)).2
  have hfraction : ∀ r, ((readFraction? r).getD ([], r)).2 <:+ r := by
    intro r
    cases hr : readFraction? r with
    | none => exact List.suffix_rfl
    | some p => exact readFraction?_suffix hr
  simp only [Numeral.read] at h ⊢
  cases hs : readSign (taken ++ rest) with | mk sign u =>
  cases hd : readDigits u with | mk whole v =>
  cases hf : (readFraction? v).getD ([], v) with | mk fraction w =>
  simp only [hs, hd, hf] at h hsign hdigits
  have hw := hfraction v
  rw [hf] at hw
  have hrest : rest <:+ w := by
    cases he : readExponent? w with
    | none => exact (Prod.mk.inj (he ▸ h)).2 ▸ List.suffix_rfl
    | some p => exact (Prod.mk.inj (he ▸ h)).2 ▸ readExponent?_suffix he
  obtain ⟨s, t, rfl, rfl⟩ := exists_taken hsign ((hrest.trans hw).trans hdigits)
  obtain ⟨ds, t, rfl, rfl⟩ := exists_taken hdigits (hrest.trans hw)
  obtain ⟨f, e, rfl, rfl⟩ := exists_taken hw hrest
  simp only [List.append_assoc] at hs hd hf
  have hs' : readSign (s ++ (ds ++ (f ++ e))) = (sign, ds ++ (f ++ e)) :=
    ignoresRest_readSign hs (by simp)
  have hd' : readDigits (ds ++ (f ++ e)) = (whole, f ++ e) := ignoresRest_readDigits hd (by simp)
  have hf' : (readFraction? (f ++ e)).getD ([], f ++ e) = (fraction, e) :=
    ignoresRest_fraction hf (by simp)
  simp only [hs', hd', hf']
  cases he : readExponent? (e ++ rest) with
  | none =>
    rw [he] at h
    obtain ⟨rfl, hnil⟩ := Prod.mk.inj h
    obtain rfl : e = [] := by simpa using congrArg List.length hnil
    rfl
  | some p =>
    obtain ⟨value, after⟩ := p
    rw [he] at h
    obtain ⟨rfl, hafter⟩ := Prod.mk.inj h
    obtain rfl : after = rest := hafter
    rw [readExponent?_taken he]

/-! ### Where the parts of a number end -/

/-- A point with digits after it: whether there is one, and where it ends. -/
def fractionAt (cs : List Char) (pos : Nat) : Checked (Bool × Nat) :=
  if cs[pos]? == some '.' && isDigitAt cs (pos + 1) then do
    .ok (true, ← skipWhile Char.isDigit cs (pos + 1))
  else .ok (false, pos)

/-- An exponent with digits: whether there is one, and where it ends. -/
def exponentAt (cs : List Char) (pos : Nat) : Checked (Bool × Nat) :=
  if cs[pos]? == some 'e' || cs[pos]? == some 'E' then
    let signed := cs[pos + 1]? == some '+' || cs[pos + 1]? == some '-'
    let offset := if signed then 2 else 1
    if isDigitAt cs (pos + offset) then do
      .ok (true, ← skipWhile Char.isDigit cs (pos + offset))
    else .ok (false, pos)
  else .ok (false, pos)

/-- A number, whose value is that of a slice of the text. -/
def numberAt (cs : List Char) (start : Nat) : Checked (Numeral × Nat) := do
  let signed := cs[start]? == some '+' || cs[start]? == some '-'
  let pos ← skipWhile Char.isDigit cs (if signed then start + 1 else start)
  let (hasFraction, pos) ← fractionAt cs pos
  let (hasExponent, pos) ← exponentAt cs pos
  let written ← slice cs start pos
  .ok ({ (Numeral.read written).1 with integral := !hasFraction && !hasExponent }, pos)

section
variable {cs r : List Char} {pos : Nat}

theorem signAt_at (h : At cs pos r) :
    At cs (if cs[pos]? == some '+' || cs[pos]? == some '-' then pos + 1 else pos)
      (readSign r).2 := by
  rw [h.getElem?]
  cases r with
  | nil => exact h
  | cons c r =>
    by_cases hc : c ≠ '+' ∧ c ≠ '-'
    · rw [readSign_of_forall (by rintro d ⟨⟩; exact hc)]
      simpa [hc.1, hc.2] using h
    · rw [not_and_or, not_not, not_not] at hc
      obtain rfl | rfl := hc <;> exact h.next

theorem fractionAt_lands (h : At cs pos r) :
    Lands cs (fractionAt cs pos)
      ((readFraction? r).isSome, ((readFraction? r).getD ([], r)).2) := by
  rw [fractionAt, h.getElem?, isDigitAt_add h, readFraction?_eq]
  split
  · rename_i hdot
    cases r with
    | nil => simp at hdot
    | cons c r =>
      obtain ⟨last, hlast, hend⟩ := skipWhile_at Char.isDigit h.next
      exact ⟨last, by simp [hlast], hend⟩
  · exact .of_at h _

theorem exponentAt_lands (h : At cs pos r) :
    Lands cs (exponentAt cs pos)
      ((readExponent? r).isSome, ((readExponent? r).map Prod.snd).getD r) := by
  rw [exponentAt, h.getElem?, readExponent?_eq]
  by_cases hmark : r[0]? == some 'e' || r[0]? == some 'E'
  · cases r with
    | nil => simp at hmark
    | cons c r =>
      have hsign := signAt_at h.next
      have hoffset : ∀ signed : Bool, pos + (if signed then 2 else 1) =
          if signed then pos + 1 + 1 else pos + 1 := by
        rintro (_ | _) <;> rfl
      simp only [hmark, if_true, hoffset, isDigitAt, hsign.getElem?, List.drop_one, List.tail_cons,
        Bool.true_and]
      split
      · obtain ⟨last, hlast, hend⟩ := skipWhile_at Char.isDigit hsign
        exact ⟨last, by simp only [hlast]; rfl, hend⟩
      · exact .of_at h _
  · simp only [hmark, Bool.false_and]
    exact .of_at h _

theorem fraction_ne_nil {p : List Char × List Char} (h : readFraction? r = some p) : p.1 ≠ [] := by
  rw [readFraction?_eq] at h
  split at h
  · rename_i hdot
    obtain rfl := Option.some.inj h
    rw [Ne, readDigits_fst_eq_nil_iff]
    simpa using (Bool.and_eq_true_iff.1 hdot).2
  · cases h

theorem numberAt_lands (h : At cs pos r) : Lands cs (numberAt cs pos) (Numeral.read r) := by
  obtain ⟨p1, h1, hat1⟩ := skipWhile_at Char.isDigit (signAt_at h)
  obtain ⟨p2, h2, hat2⟩ := fractionAt_lands hat1
  obtain ⟨p3, h3, hat3⟩ := exponentAt_lands hat2
  set u := (readSign r).2.dropWhile Char.isDigit
  set v := ((readFraction? u).getD ([], u)).2
  have hfraction : ((readFraction? u).getD ([], u)).1.isEmpty = !(readFraction? u).isSome := by
    cases hf : readFraction? u with
    | none => rfl
    | some p => simpa using fraction_ne_nil hf
  have hread : (Numeral.read r).2 = ((readExponent? v).map Prod.snd).getD v ∧
      (Numeral.read r).1.integral = (!(readFraction? u).isSome && !(readExponent? v).isSome) := by
    rw [← hfraction]
    simp only [Numeral.read, readDigits]
    split
    · rename_i e w hexponent
      rw [show readExponent? v = some (e, w) from hexponent]
      exact ⟨rfl, rfl⟩
    · rename_i hexponent
      rw [show readExponent? v = none from hexponent]
      exact ⟨rfl, rfl⟩
  obtain ⟨written, hwritten⟩ := Numeral.read_suffix r
  rw [← hread.1] at hat3
  have htaken : Numeral.read written = ((Numeral.read r).1, []) :=
    read_taken (show Numeral.read (written ++ (Numeral.read r).2) = _ by rw [hwritten])
  have hslice : slice cs pos p3 = .ok written := (hwritten ▸ h).slice_to hat3
  simp only [numberAt, h1, h2, h3, hslice, ok_bind, htaken, ← hread.2]
  exact .of_at hat3 _

end

end WebStyle.Cursor

namespace WebStyle.Cursor

open WebStyle.Lexer

/-! ### Tokens -/

def numericAt (cs : List Char) (pos : Nat) : Checked (Token × Nat) := do
  let (n, pos) ← numberAt cs pos
  if startsNameAt cs pos then
    let (unit, pos) ← nameAt cs pos
    .ok (.dimension n (String.ofList unit), pos)
  else if cs[pos]? == some '%' then .ok (.percentage n, pos + 1)
  else .ok (.number n, pos)

def namedAt (cs : List Char) (pos : Nat) : Checked (Token × Nat) := do
  let (name, pos) ← nameAt cs pos
  let name := String.ofList name
  if cs[pos]? != some '(' then .ok (.ident name, pos)
  else if Text.sameIgnoringCase name "url" then
    match ← urlAt cs (pos + 1) with
    | (some address, pos) => .ok (.url (String.ofList address), pos)
    | (none, pos) => .ok (.badUrl, pos)
  else .ok (.function name, pos + 1)

/-- The token that starts with the character `c` at a position. -/
def tokenAt (cs : List Char) (c : Char) (pos : Nat) : Checked (Token × Nat) :=
  if c == '"' || c == '\'' then do
    match ← stringAt cs c (pos + 1) with
    | (some value, pos) => .ok (.string (String.ofList value), pos)
    | (none, pos) => .ok (.badString, pos)
  else if c == '#' then
    let pos := pos + 1
    if (cs[pos]?).any isNameChar || startsEscapeAt cs pos then do
      let isId := startsNameAt cs pos
      let (name, pos) ← nameAt cs pos
      .ok (.hash (String.ofList name) isId, pos)
    else .ok (.delim c, pos)
  else if c == '+' || c == '.' then
    if startsNumberAt cs pos then numericAt cs pos else .ok (.delim c, pos + 1)
  else if c == '-' then
    if startsNumberAt cs pos then numericAt cs pos
    else if matchesAt cs pos ['-', '-', '>'] then .ok (.markupClose, pos + 3)
    else if startsNameAt cs pos then namedAt cs pos
    else .ok (.delim c, pos + 1)
  else if c.isDigit then numericAt cs pos
  else if c == '@' then
    let pos := pos + 1
    if startsNameAt cs pos then do
      let (name, pos) ← nameAt cs pos
      .ok (.atKeyword (String.ofList name), pos)
    else .ok (.delim c, pos)
  else if c == '<' && matchesAt cs pos ['<', '!', '-', '-'] then .ok (.markupOpen, pos + 4)
  else if c == '\\' then
    if startsEscapeAt cs pos then namedAt cs pos else .ok (.delim c, pos + 1)
  else if isNameStart c then namedAt cs pos
  else .ok (single c, pos + 1)

def nextStep (cs : List Char) : List Token × Nat → Checked ((List Token × Nat) ⊕ List Token)
  | (tokens, pos) => do
    let (seen, pos) ← spaceAt cs pos
    if seen then .ok (.inl (tokens ++ [.blank], pos))
    else match cs[pos]? with
      | none => .ok (.inr tokens)
      | some c =>
        let (t, pos) ← tokenAt cs c pos
        .ok (.inl (tokens ++ [t], pos))

/-- The tokens of a text. -/
def tokenize (text : String) : Checked (List Token) :=
  let cs := normalize text.toList
  loop (nextStep cs) (cs.length + 1) ([], 0)

section
variable {cs r : List Char} {pos : Nat}

theorem numericAt_lands (h : At cs pos r) : Lands cs (numericAt cs pos) (readNumeric r) := by
  obtain ⟨next, hnext, hat⟩ := numberAt_lands h
  simp only [numericAt, hnext, ok_bind, startsNameAt_eq hat, hat.getElem?, readNumeric]
  split
  · obtain ⟨last, hlast, hend⟩ := nameAt_lands hat
    exact ⟨last, by simp [hlast], hend⟩
  · cases hrest : (Numeral.read r).2 with
    | nil => exact .of_at (hrest ▸ hat) _
    | cons c u =>
      rw [hrest] at hat
      by_cases hc : c = '%'
      · subst hc
        exact .of_at hat.next _
      · simpa [hc] using Lands.of_at hat _

theorem namedAt_lands (h : At cs pos r) : Lands cs (namedAt cs pos) (readNamed r) := by
  obtain ⟨next, hnext, hat⟩ := nameAt_lands h
  simp only [namedAt, hnext, ok_bind, hat.getElem?, readNamed]
  cases hname : readName r with
  | mk name rest =>
    rw [hname] at hat
    cases rest with
    | nil => exact .of_at hat _
    | cons c u =>
      by_cases hc : c = '('
      · subst hc
        obtain ⟨last, hlast, hend⟩ := urlAt_lands hat.next
        simp only [List.getElem?_cons_zero, bne_self_eq_false, hlast, ok_bind]
        split
        · rename_i hfalse
          exact absurd hfalse (by simp)
        · split
          · cases hurl : readUrl u with
            | mk address rest =>
              rw [hurl] at hend
              cases address <;> exact .of_at hend _
          · exact .of_at hat.next _
      · simpa [hc] using Lands.of_at hat _

theorem starts_of_ne {c : Char} (hplus : c ≠ '+') (hminus : c ≠ '-') (hdot : c ≠ '.')
    (r : List Char) : Numeral.starts (c :: r) = c.isDigit := by
  rw [Numeral.starts, readSign_of_forall (by rintro d ⟨⟩; exact ⟨hplus, hminus⟩)]
  split
  · simp_all
  · simp_all
  · simp_all

theorem startsName_of_ne {c : Char} (hminus : c ≠ '-') (hescape : c ≠ '\\') (r : List Char) :
    startsName (c :: r) = isNameStart c := by
  unfold startsName
  split <;> simp_all

theorem tokenAt_quote {c : Char} (h : At cs pos (c :: r)) (hc : c == '"' || c == '\'') :
    Lands cs (tokenAt cs c pos) (readToken c r) := by
  obtain ⟨last, hlast, hend⟩ := stringAt_lands h.next c
  simp only [tokenAt, readToken, hc, if_true, hlast, ok_bind, readQuoted]
  cases hvalue : readString c r with
  | mk value rest =>
    rw [hvalue] at hend
    cases value <;> exact .of_at hend _

theorem tokenAt_hash (h : At cs pos ('#' :: r)) :
    Lands cs (tokenAt cs '#' pos) (readToken '#' r) := by
  have htoken : tokenAt cs '#' pos =
      if (cs[pos + 1]?).any isNameChar || startsEscapeAt cs (pos + 1) then do
        let isId := startsNameAt cs (pos + 1)
        let (name, pos) ← nameAt cs (pos + 1)
        .ok (.hash (String.ofList name) isId, pos)
      else .ok (.delim '#', pos + 1) := rfl
  have hread : readToken '#' r =
      if r.head?.any isNameChar || startsEscape r then
        (.hash (String.ofList (readName r).1) (startsName r), (readName r).2)
      else (.delim '#', r) := rfl
  rw [htoken, hread, h.next.getElem?, startsEscapeAt_eq h.next, startsNameAt_eq h.next,
    List.head?_eq_getElem?]
  split
  · obtain ⟨last, hlast, hend⟩ := nameAt_lands h.next
    simp only [hlast, ok_bind]
    exact .of_at hend _
  · exact .of_at h.next _

theorem tokenAt_at (h : At cs pos ('@' :: r)) :
    Lands cs (tokenAt cs '@' pos) (readToken '@' r) := by
  have htoken : tokenAt cs '@' pos = if startsNameAt cs (pos + 1) then do
      let (name, pos) ← nameAt cs (pos + 1)
      .ok (.atKeyword (String.ofList name), pos)
    else .ok (.delim '@', pos + 1) := rfl
  have hread : readToken '@' r =
      if startsName r then (.atKeyword (String.ofList (readName r).1), (readName r).2)
      else (.delim '@', r) := rfl
  rw [htoken, hread, startsNameAt_eq h.next]
  split
  · obtain ⟨last, hlast, hend⟩ := nameAt_lands h.next
    simp only [hlast, ok_bind]
    exact .of_at hend _
  · exact .of_at h.next _

theorem tokenAt_sign {c : Char} (h : At cs pos (c :: r)) (hc : c = '+' ∨ c = '.') :
    Lands cs (tokenAt cs c pos) (readToken c r) := by
  have htoken : tokenAt cs c pos =
      if startsNumberAt cs pos then numericAt cs pos else .ok (.delim c, pos + 1) := by
    rcases hc with rfl | rfl <;> rfl
  have hread : readToken c r =
      if Numeral.starts (c :: r) then readNumeric (c :: r) else (.delim c, r) := by
    rcases hc with rfl | rfl <;> rfl
  rw [htoken, hread, startsNumberAt_eq h]
  split
  · exact numericAt_lands h
  · exact .of_at h.next _

theorem tokenAt_hyphen (h : At cs pos ('-' :: r)) :
    Lands cs (tokenAt cs '-' pos) (readToken '-' r) := by
  have htoken : tokenAt cs '-' pos =
      if startsNumberAt cs pos then numericAt cs pos
      else if matchesAt cs pos ['-', '-', '>'] then .ok (.markupClose, pos + 3)
      else if startsNameAt cs pos then namedAt cs pos
      else .ok (.delim '-', pos + 1) := rfl
  have hread : readToken '-' r =
      if Numeral.starts ('-' :: r) then readNumeric ('-' :: r)
      else if ['-', '>'].isPrefixOf r then (.markupClose, r.drop 2)
      else if startsName ('-' :: r) then readNamed ('-' :: r)
      else (.delim '-', r) := rfl
  rw [htoken, hread, startsNumberAt_eq h, startsNameAt_eq h, matchesAt_eq h,
    List.isPrefixOf_cons_cons, beq_self_eq_true, Bool.true_and]
  split
  · exact numericAt_lands h
  split
  · rename_i hmark
    obtain ⟨l, rfl⟩ := List.isPrefixOf_iff_prefix.1 hmark
    exact .of_at h.next.next.next _
  split
  · exact namedAt_lands h
  · exact .of_at h.next _

theorem tokenAt_less (h : At cs pos ('<' :: r)) :
    Lands cs (tokenAt cs '<' pos) (readToken '<' r) := by
  have htoken : tokenAt cs '<' pos =
      if matchesAt cs pos ['<', '!', '-', '-'] then .ok (.markupOpen, pos + 4)
      else .ok (.delim '<', pos + 1) := rfl
  have hread : readToken '<' r =
      if ['!', '-', '-'].isPrefixOf r then (.markupOpen, r.drop 3) else (.delim '<', r) := rfl
  rw [htoken, hread, matchesAt_eq h, List.isPrefixOf_cons_cons, beq_self_eq_true, Bool.true_and]
  split
  · rename_i hmark
    obtain ⟨l, rfl⟩ := List.isPrefixOf_iff_prefix.1 hmark
    exact .of_at h.next.next.next.next _
  · exact .of_at h.next _

theorem tokenAt_escape (h : At cs pos ('\\' :: r)) :
    Lands cs (tokenAt cs '\\' pos) (readToken '\\' r) := by
  have htoken : tokenAt cs '\\' pos =
      if startsEscapeAt cs pos then namedAt cs pos else .ok (.delim '\\', pos + 1) := rfl
  have hread : readToken '\\' r =
      if startsEscape ('\\' :: r) then readNamed ('\\' :: r) else (.delim '\\', r) := rfl
  rw [htoken, hread, startsEscapeAt_eq h]
  split
  · exact namedAt_lands h
  · exact .of_at h.next _

/-- Characters without a rule of their own start a number, a name or nothing but themselves. -/
theorem tokenAt_other {c : Char} (h : At cs pos (c :: r)) (hquote : ¬ (c == '"' || c == '\''))
    (hhash : c ≠ '#') (hsign : ¬ (c = '+' ∨ c = '.')) (hhyphen : c ≠ '-') (hat : c ≠ '@')
    (hless : c ≠ '<') (hescape : c ≠ '\\') :
    Lands cs (tokenAt cs c pos) (readToken c r) := by
  obtain ⟨hplus, hdot⟩ := not_or.1 hsign
  have htoken : tokenAt cs c pos =
      if c.isDigit then numericAt cs pos
      else if isNameStart c then namedAt cs pos
      else .ok (single c, pos + 1) := by
    simp only [tokenAt, hquote, beq_false_of_ne hhash, beq_false_of_ne hplus, beq_false_of_ne hdot,
      beq_false_of_ne hhyphen, beq_false_of_ne hat, beq_false_of_ne hless, beq_false_of_ne hescape,
      Bool.or_false, Bool.false_and, Bool.false_eq_true, if_false]
  have hread : readToken c r =
      if c.isDigit then readNumeric (c :: r)
      else if isNameStart c then readNamed (c :: r)
      else (single c, r) := by
    simp only [readToken, hquote, beq_false_of_ne hhash, beq_false_of_ne hhyphen,
      beq_false_of_ne hat, beq_false_of_ne hless, starts_of_ne hplus hhyphen hdot,
      startsName_of_ne hhyphen hescape, Bool.false_and, Bool.false_eq_true, if_false]
  rw [htoken, hread]
  split
  · exact numericAt_lands h
  split
  · exact namedAt_lands h
  · exact .of_at h.next _

theorem tokenAt_lands {c : Char} (h : At cs pos (c :: r)) :
    Lands cs (tokenAt cs c pos) (readToken c r) := by
  by_cases hquote : c == '"' || c == '\''
  · exact tokenAt_quote h hquote
  by_cases hsign : c = '+' ∨ c = '.'
  · exact tokenAt_sign h hsign
  by_cases hhash : c = '#'
  · subst hhash
    exact tokenAt_hash h
  by_cases hhyphen : c = '-'
  · subst hhyphen
    exact tokenAt_hyphen h
  by_cases hat : c = '@'
  · subst hat
    exact tokenAt_at h
  by_cases hless : c = '<'
  · subst hless
    exact tokenAt_less h
  by_cases hescape : c = '\\'
  · subst hescape
    exact tokenAt_escape h
  exact tokenAt_other h hquote hhash hsign hhyphen hat hless hescape

theorem nextStep_of_none (h : At cs pos r) (hnext : next? r = none) (before : List Token) :
    nextStep cs (before, pos) = .ok (.inr before) := by
  obtain ⟨p, hp, hat⟩ := spaceAt_lands h
  unfold next? at hnext
  cases hspace : skipSpace false r with
  | mk seen u =>
    rw [hspace] at hp hat hnext
    rcases seen with _ | _ <;> rcases u with _ | ⟨c, u⟩ <;> simp at hnext
    simp [nextStep, hp, hat.getElem?]

theorem nextStep_of_some (h : At cs pos r) {t : Token} {rest : List Char}
    (hnext : next? r = some (t, rest)) (before : List Token) :
    ∃ last, nextStep cs (before, pos) = .ok (.inl (before ++ [t], last)) ∧ At cs last rest := by
  obtain ⟨p, hp, hat⟩ := spaceAt_lands h
  unfold next? at hnext
  cases hspace : skipSpace false r with
  | mk seen u =>
    rw [hspace] at hp hat hnext
    rcases seen with _ | _
    · rcases u with _ | ⟨c, u⟩
      · cases hnext
      · obtain ⟨last, hlast, hend⟩ := tokenAt_lands hat
        obtain hread : readToken c u = (t, rest) := Option.some.inj hnext
        rw [hread] at hlast hend
        exact ⟨last, by simp [nextStep, hp, hat.getElem?, hlast], hend⟩
    · obtain ⟨rfl, rfl⟩ := Prod.mk.inj (Option.some.inj hnext)
      exact ⟨p, by simp [nextStep, hp], hat⟩

/-- The tokens of a text are found by positions without a fault. -/
theorem tokenize_eq (text : String) : tokenize text = .ok (WebStyle.tokenize text) := by
  have hloop : ∀ {cs r : List Char} {pos rounds : Nat} (before : List Token), At cs pos r →
      r.length < rounds →
      loop (nextStep cs) rounds (before, pos) = .ok (before ++ tokens r) := by
    intro cs r pos rounds before h hrounds
    fun_induction tokens r generalizing pos rounds before with
    | case1 r hnext => simpa using loop_inr (by omega) (nextStep_of_none h hnext before)
    | case2 r t rest hnext hlt ih =>
      obtain ⟨last, hlast, hend⟩ := nextStep_of_some h hnext before
      rw [loop_inl _ (by omega) hlast, ih (before ++ [t]) hend (by omega)]
      simp
  simpa [tokenize, WebStyle.tokenize] using hloop [] (.start _) (Nat.lt_succ_self _)

end

end WebStyle.Cursor
