import WebStyle.Proofs.Cursor.Basic
import WebStyle.Proofs.Token.Lexing
/-!
Characters by positions: what is looked up by index, blanks and comments, and what escapes, names,
strings and addresses hold. The digits of an escape add up in 32 bits.
-/
set_option autoImplicit false

namespace WebStyle.Cursor

open WebStyle.Lexer

/-! ### What is looked up -/

section Lookups
variable (cs : List Char)

/-- Whether a word stands at a position. -/
def matchesAt (pos : Nat) : List Char → Bool
  | [] => true
  | c :: word => cs[pos]? == some c && matchesAt (pos + 1) word

def isDigitAt (pos : Nat) : Bool := (cs[pos]?).any Char.isDigit

def startsEscapeAt (pos : Nat) : Bool := cs[pos]? == some '\\' && (cs[pos + 1]?).any (· != '\n')

def startsNameAt (pos : Nat) : Bool :=
  match cs[pos]? with
  | some '-' =>
    match cs[pos + 1]? with
    | some c => isNameStart c || c == '-' || (c == '\\' && startsEscapeAt cs (pos + 1))
    | none => false
  | some '\\' => startsEscapeAt cs pos
  | some c => isNameStart c
  | none => false

def startsNumberAt (pos : Nat) : Bool :=
  match cs[pos]? with
  | some '+' | some '-' =>
    isDigitAt cs (pos + 1) || (cs[pos + 1]? == some '.' && isDigitAt cs (pos + 2))
  | some '.' => isDigitAt cs (pos + 1)
  | some c => c.isDigit
  | none => false

end Lookups

section
variable {cs r : List Char} {pos : Nat} (h : At cs pos r)
include h

theorem matchesAt_eq (word : List Char) : matchesAt cs pos word = word.isPrefixOf r := by
  induction word generalizing pos r with
  | nil => simp [matchesAt]
  | cons c word ih =>
    rw [matchesAt, h.getElem?]
    cases r with
    | nil => simp
    | cons d r =>
      rw [List.isPrefixOf_cons_cons, ih h.next, Bool.beq_comm (a := c)]
      rfl

theorem isDigitAt_add (i : Nat) : isDigitAt cs (pos + i) = (r[i]?).any Char.isDigit := by
  rw [isDigitAt, h.getElem?_add]

theorem startsEscapeAt_eq : startsEscapeAt cs pos = startsEscape r := by
  rw [startsEscapeAt, h.getElem?, h.getElem?_add]
  unfold startsEscape
  split
  · simp
  · rename_i hr
    match r with
    | [] => rfl
    | [c] => simp
    | c :: d :: r =>
      have hc : c ≠ '\\' := fun hc => hr d r (hc ▸ rfl)
      simp [hc]

theorem startsNameAt_eq : startsNameAt cs pos = startsName r := by
  rw [startsNameAt, h.getElem?, h.getElem?_add, startsEscapeAt_eq h]
  match r with
  | [] => rfl
  | c :: r =>
    simp only [List.getElem?_cons_zero, List.getElem?_cons_succ]
    by_cases hhyphen : c = '-'
    · subst hhyphen
      rw [startsEscapeAt_eq h.next]
      match r with
      | [] => rfl
      | d :: r =>
        have hname : isNameStart '\\' = false := by decide
        simp only [List.getElem?_cons_zero, startsName]
        split <;> simp_all [startsEscape]
    · by_cases hescape : c = '\\'
      · subst hescape
        rfl
      · simp only [startsName]

theorem startsNumberAt_eq : startsNumberAt cs pos = Numeral.starts r := by
  have hdot : Char.isDigit '.' = false := by decide
  have hsigned : ∀ {c : Char} {l : List Char}, (Numeral.readSign (c :: l)).2 = l →
      Numeral.starts (c :: l) = ((l[0]?).any Char.isDigit ||
        (l[0]? == some '.' && (l[1]?).any Char.isDigit)) := by
    intro c l hl
    rw [Numeral.starts, hl]
    rcases l with _ | ⟨d, _ | ⟨e, l⟩⟩
    · rfl
    · by_cases hd : d = '.' <;> simp [hd]
    · by_cases hd : d = '.' <;> simp [hd, hdot]
  rw [startsNumberAt, h.getElem?, h.getElem?_add, isDigitAt_add h, isDigitAt_add h]
  cases r with
  | nil => rfl
  | cons c r =>
    simp only [List.getElem?_cons_zero, List.getElem?_cons_succ]
    split
    · rename_i hc
      obtain rfl := Option.some.inj hc
      exact (hsigned rfl).symm
    · rename_i hc
      obtain rfl := Option.some.inj hc
      exact (hsigned rfl).symm
    · rename_i hc
      obtain rfl := Option.some.inj hc
      cases r <;> rfl
    · rename_i d hplus hminus hnodot hc
      obtain rfl := Option.some.inj hc
      have hsign : (Numeral.readSign (c :: r)).2 = c :: r := by
        unfold Numeral.readSign
        split <;> simp_all
      rw [Numeral.starts, hsign]
      split <;> simp_all
    · simp_all

end

/-! ### Blanks and comments -/

def commentStep (cs : List Char) (pos : Nat) : Checked (Nat ⊕ Nat) :=
  .ok (if pos < cs.length && !matchesAt cs pos ['*', '/'] then .inl (pos + 1)
    else .inr (min (pos + 2) cs.length))

/-- Where a comment ends that was opened before a position. -/
def commentEnd (cs : List Char) (pos : Nat) : Checked Nat :=
  loop (commentStep cs) (cs.length + 1) pos

def spaceStep (cs : List Char) : Bool × Nat → Checked ((Bool × Nat) ⊕ (Bool × Nat))
  | (seen, pos) =>
    if matchesAt cs pos ['/', '*'] then do
      .ok (.inl (seen, ← commentEnd cs (pos + 2)))
    else if (cs[pos]?).any Text.isAsciiBlank then .ok (.inl (true, pos + 1))
    else .ok (.inr (seen, pos))

/-- Whether there are blanks at a position, and where they and the comments among them end. -/
def spaceAt (cs : List Char) (pos : Nat) : Checked (Bool × Nat) :=
  loop (spaceStep cs) (cs.length + 1) (false, pos)

section
variable {cs r : List Char} {pos : Nat}

theorem matchesAt_pair {a b c : Char} (h : At cs pos (c :: r))
    (hne : ∀ l, c = a → r = b :: l → False) : matchesAt cs pos [a, b] = false := by
  rw [matchesAt_eq h, Bool.eq_false_iff]
  intro hlead
  obtain ⟨l, hl⟩ := List.isPrefixOf_iff_prefix.1 hlead
  obtain ⟨rfl, rfl⟩ := List.cons.inj hl
  exact hne l rfl rfl

theorem commentEnd_at (h : At cs pos r) :
    ∃ next, commentEnd cs pos = .ok next ∧ At cs next (skipComment r) := by
  have hrounds := h.lt_rounds
  unfold commentEnd
  generalize cs.length + 1 = rounds at hrounds
  fun_induction skipComment r generalizing pos rounds with
  | case1 r =>
    refine ⟨pos + 2, loop_inr (by omega) ?_, h.next.next⟩
    have := h.next.next.le
    simp [commentStep, matchesAt_eq h, this]
  | case2 c r hopen ih =>
    simp only [List.length_cons] at hrounds
    have hmatch := matchesAt_pair h hopen
    rw [loop_inl (pos + 1) (by omega) (by simp [commentStep, hmatch, h.lt])]
    exact ih h.next (rounds - 1) (by omega)
  | case3 =>
    refine ⟨cs.length, loop_inr (by omega) ?_, .stop cs⟩
    simp [commentStep, h.eq_length]

theorem spaceAt_lands (h : At cs pos r) : Lands cs (spaceAt cs pos) (skipSpace false r) := by
  have hrounds := h.lt_rounds
  unfold spaceAt
  generalize cs.length + 1 = rounds at hrounds
  generalize false = seen
  fun_induction skipSpace seen r generalizing pos rounds with
  | case1 seen r hlt ih =>
    simp only [List.length_cons] at hrounds
    obtain ⟨next, hnext, hat⟩ := commentEnd_at h.next.next
    exact .of_loop_inl _ (by omega) (by simp [spaceStep, matchesAt_eq h, hnext])
      (ih hat (rounds - 1) (by omega))
  | case2 seen c r hopen hc ih =>
    simp only [List.length_cons] at hrounds
    exact .of_loop_inl _ (by omega) (by simp [spaceStep, matchesAt_pair h hopen, h.getElem?, hc])
      (ih h.next (rounds - 1) (by omega))
  | case3 seen c r hopen hc =>
    exact .of_loop_inr (by omega) (by simp [spaceStep, matchesAt_pair h hopen, h.getElem?, hc]) h
  | case4 seen =>
    exact .of_loop_inr (by omega) (by simp [spaceStep, matchesAt_eq h, h.getElem?]) h

end

/-! ### Escapes, names and strings -/

/-- Adds hexadecimal digits to a code point, at most as many as are allowed. -/
def hexAt (cs : List Char) : Nat → Nat → Nat → Checked (Nat × Nat)
  | 0, code, pos => .ok (code, pos)
  | digits + 1, code, pos =>
    match cs[pos]? with
    | some c =>
      if Text.isHexDigit c then do
        let code ← fits UInt32.size ((← fits UInt32.size (code * 16)) + Text.hexValue c)
        hexAt cs digits code (pos + 1)
      else .ok (code, pos)
    | none => .ok (code, pos)

/-- The character of an escape whose backslash stands before a position. -/
def escapeAt (cs : List Char) (pos : Nat) : Checked (Char × Nat) :=
  match cs[pos]? with
  | none => .ok ('\uFFFD', pos)
  | some c =>
    if Text.isHexDigit c then do
      let (code, pos) ← hexAt cs 5 (Text.hexValue c) (pos + 1)
      let pos := if (cs[pos]?).any Text.isAsciiBlank then pos + 1 else pos
      .ok (charOfCode code, pos)
    else .ok (c, pos + 1)

def nameStep (cs : List Char) : List Char × Nat → Checked ((List Char × Nat) ⊕ (List Char × Nat))
  | (name, pos) =>
    match cs[pos]? with
    | none => .ok (.inr (name, pos))
    | some c =>
      if isNameChar c then .ok (.inl (name ++ [c], pos + 1))
      else if startsEscapeAt cs pos then do
        let (c, pos) ← escapeAt cs (pos + 1)
        .ok (.inl (name ++ [c], pos))
      else .ok (.inr (name, pos))

def nameAt (cs : List Char) (pos : Nat) : Checked (List Char × Nat) :=
  loop (nameStep cs) (cs.length + 1) ([], pos)

def stringStep (cs : List Char) (quote : Char) :
    List Char × Nat → Checked ((List Char × Nat) ⊕ (Option (List Char) × Nat))
  | (value, pos) =>
    match cs[pos]? with
    | none => .ok (.inr (some value, pos))
    | some c =>
      let pos := pos + 1
      if c == quote then .ok (.inr (some value, pos))
      -- The line end is left, to be read as a blank.
      else if c == '\n' then do .ok (.inr (none, ← decrease pos 1))
      else if c == '\\' then
        match cs[pos]? with
        | none => .ok (.inl (value, pos))
        | some '\n' => .ok (.inl (value, pos + 1))
        | some _ => do
          let (c, pos) ← escapeAt cs pos
          .ok (.inl (value ++ [c], pos))
      else .ok (.inl (value ++ [c], pos))

/-- The value of a string whose opening quote stands before a position. -/
def stringAt (cs : List Char) (quote : Char) (pos : Nat) : Checked (Option (List Char) × Nat) :=
  loop (stringStep cs quote) (cs.length + 1) ([], pos)

theorem hexValue_lt {c : Char} (h : Text.isHexDigit c) : Text.hexValue c < 16 := by
  have hdigit : c.isDigit ↔ 48 ≤ c.toNat ∧ c.toNat ≤ 57 :=
    Bool.and_eq_true_iff.trans (and_congr decide_eq_true_iff decide_eq_true_iff)
  have hle : ∀ {a b : Char}, a ≤ b ↔ a.toNat ≤ b.toNat := Iff.rfl
  simp only [Text.isHexDigit, Bool.or_eq_true, Bool.and_eq_true, decide_eq_true_eq, hle, hdigit,
    Char.reduceToNat] at h
  simp only [Text.hexValue, hdigit, hle, Char.reduceToNat]
  split
  · omega
  · split <;> omega

section
variable {cs r : List Char} {pos : Nat}

/-- Eight hexadecimal digits fit 32 bits. -/
theorem hexAt_lands (h : At cs pos r) {digits seen code : Nat} (hdigits : digits + seen ≤ 8)
    (hcode : code < 16 ^ seen) :
    Lands cs (hexAt cs digits code pos)
      (((r.take digits).takeWhile Text.isHexDigit).foldl (fun n d => 16 * n + Text.hexValue d) code,
        r.drop ((r.take digits).takeWhile Text.isHexDigit).length) := by
  induction digits generalizing r pos code seen with
  | zero => simpa [hexAt] using Lands.of_at h code
  | succ digits ih =>
    rw [hexAt, h.getElem?]
    cases r with
    | nil => exact .of_at h code
    | cons c r =>
      simp only [List.getElem?_cons_zero, List.take_succ_cons]
      by_cases hc : Text.isHexDigit c
      · have hnext : 16 * code + Text.hexValue c < 16 ^ (seen + 1) := by
          have := hexValue_lt hc
          rw [Nat.pow_succ]
          omega
        have hfits : 16 ^ (seen + 1) ≤ UInt32.size := by
          rw [show UInt32.size = 16 ^ 8 by decide]
          exact Nat.pow_le_pow_right (by decide) (by omega)
        simp only [hc, if_true, fits, Nat.mul_comm code, ok_bind,
          if_pos (show 16 * code < UInt32.size by omega),
          if_pos (show 16 * code + Text.hexValue c < UInt32.size by omega)]
        simpa [hc] using ih h.next (by omega) hnext
      · simpa [hc] using Lands.of_at h code

theorem skipOneBlank_at (h : At cs pos r) :
    At cs (if (cs[pos]?).any Text.isAsciiBlank then pos + 1 else pos) (skipOneBlank r) := by
  rw [h.getElem?]
  cases r with
  | nil => exact h
  | cons c r =>
    simp only [List.getElem?_cons_zero, Option.any_some, skipOneBlank]
    split
    · exact h.next
    · exact h

theorem escapeAt_lands (h : At cs pos r) : Lands cs (escapeAt cs pos) (readEscape r) := by
  rw [escapeAt, h.getElem?]
  cases r with
  | nil => exact .of_at h _
  | cons c r =>
    simp only [List.getElem?_cons_zero, readEscape]
    by_cases hc : Text.isHexDigit c
    · have hcode : Text.hexValue c < 16 ^ 1 := hexValue_lt hc
      obtain ⟨next, hnext, hat⟩ := hexAt_lands h.next (show 5 + 1 ≤ 8 by decide) hcode
      simp only [hc, if_true, hnext, ok_bind]
      exact ⟨_, by simp, skipOneBlank_at hat⟩
    · simpa [hc] using Lands.of_at h.next c

theorem nameAt_lands (h : At cs pos r) : Lands cs (nameAt cs pos) (readName r) := by
  have hrounds := h.lt_rounds
  have hloop : ∀ rounds name, r.length < rounds →
      Lands cs (loop (nameStep cs) rounds (name, pos))
        (name ++ (readName r).1, (readName r).2) := by
    clear hrounds
    intro rounds name hrounds
    fun_induction readName r generalizing pos rounds name with
    | case1 => exact .of_loop_inr (by omega) (by simp [nameStep, h.getElem?]) h
    | case2 c r hc more rest hmore ih =>
      simp only [List.length_cons] at hrounds
      refine .of_loop_inl _ (by omega) (by simp [nameStep, h.getElem?, hc]; rfl) ?_
      simpa [hmore] using ih h.next (rounds - 1) (name ++ [c]) (by omega)
    | case3 c r hc hescape hlen more rest hmore ih =>
      simp only [List.length_cons] at hrounds
      obtain ⟨next, hnext, hat⟩ := escapeAt_lands h.next
      refine .of_loop_inl _ (by omega)
        (by simp [nameStep, h.getElem?, hc, startsEscapeAt_eq h, hescape, hnext]; rfl) ?_
      simpa [hmore] using ih hat (rounds - 1) (name ++ [(readEscape r).1]) (by omega)
    | case4 c r hc hescape =>
      exact .of_loop_inr (by omega)
        (by simp [nameStep, h.getElem?, hc, startsEscapeAt_eq h, hescape]) h
  exact hloop _ [] hrounds

theorem stringAt_lands (h : At cs pos r) (quote : Char) :
    Lands cs (stringAt cs quote pos) (readString quote r) := by
  have hrounds := h.lt_rounds
  have hloop : ∀ rounds value, r.length < rounds →
      Lands cs (loop (stringStep cs quote) rounds (value, pos))
        ((readString quote r).1.map (value ++ ·), (readString quote r).2) := by
    clear hrounds
    intro rounds value hrounds
    fun_induction readString quote r generalizing pos rounds value with
    | case1 => exact .of_loop_inr (by omega) (by simp [stringStep, h.getElem?]) h
    | case2 c r hc => exact .of_loop_inr (by omega) (by simp [stringStep, h.getElem?, hc]) h.next
    | case3 c r hc hend =>
      exact .of_loop_inr (by omega) (by simp [stringStep, h.getElem?, hc, hend, decrease]) h
    | case4 c hc hend hescape =>
      simp only [List.length_cons] at hrounds
      refine .of_loop_inl _ (by omega)
        (by simp [stringStep, h.getElem?, h.getElem?_add, hc, hend, hescape]; rfl) ?_
      exact .of_loop_inr (by omega) (by simp [stringStep, h.next.getElem?]) h.next
    | case5 c hc hend hescape r ih =>
      simp only [List.length_cons] at hrounds
      exact .of_loop_inl _ (by omega)
        (by simp [stringStep, h.getElem?, h.getElem?_add, hc, hend, hescape])
        (ih h.next.next (rounds - 1) value (by omega))
    | case6 c hc hend hescape d r hline hlen more rest hmore ih =>
      simp only [List.length_cons] at hrounds hlen
      obtain ⟨next, hnext, hat⟩ := escapeAt_lands h.next
      refine .of_loop_inl _ (by omega)
        (by simp [stringStep, h.getElem?, h.getElem?_add, hc, hend, hescape, hnext]; rfl) ?_
      simpa [hmore, Function.comp_def] using
        ih hat (rounds - 1) (value ++ [(readEscape (d :: r)).1]) (by omega)
    | case7 c r hc hend hescape more rest hmore ih =>
      simp only [List.length_cons] at hrounds
      refine .of_loop_inl _ (by omega) (by simp [stringStep, h.getElem?, hc, hend, hescape]; rfl) ?_
      simpa [hmore, Function.comp_def] using ih h.next (rounds - 1) (value ++ [c]) (by omega)
  simpa [stringAt] using hloop _ [] hrounds

end

/-! ### Addresses -/

def badUrlStep (cs : List Char) (pos : Nat) : Checked (Nat ⊕ Nat) :=
  .ok <| match cs[pos]? with
    | none => .inr pos
    | some c =>
      if c == ')' then .inr (pos + 1)
      else if c == '\\' && (cs[pos + 1]?).isSome then .inl (pos + 2)
      else .inl (pos + 1)

/-- Where a malformed address ends. -/
def badUrlEnd (cs : List Char) (pos : Nat) : Checked Nat :=
  loop (badUrlStep cs) (cs.length + 1) pos

def endUrlAt (cs address : List Char) (pos : Nat) : Checked (Option (List Char) × Nat) := do
  let pos ← skipWhile Text.isAsciiBlank cs pos
  match cs[pos]? with
  | some ')' | none => .ok (some address, min (pos + 1) cs.length)
  | some _ => .ok (none, ← badUrlEnd cs pos)

def bareUrlStep (cs : List Char) :
    List Char × Nat → Checked ((List Char × Nat) ⊕ (Option (List Char) × Nat))
  | (address, pos) =>
    match cs[pos]? with
    | none => .ok (.inr (some address, pos))
    | some c =>
      if c == ')' then .ok (.inr (some address, pos + 1))
      else if Text.isAsciiBlank c then do .ok (.inr (← endUrlAt cs address pos))
      else if c == '"' || c == '\'' || c == '(' then do .ok (.inr (none, ← badUrlEnd cs pos))
      else if c == '\\' then
        if startsEscapeAt cs pos then do
          let (c, pos) ← escapeAt cs (pos + 1)
          .ok (.inl (address ++ [c], pos))
        else do .ok (.inr (none, ← badUrlEnd cs pos))
      else .ok (.inl (address ++ [c], pos + 1))

/-- An address whose opening parenthesis stands before a position. -/
def urlAt (cs : List Char) (pos : Nat) : Checked (Option (List Char) × Nat) := do
  let pos ← skipWhile Text.isAsciiBlank cs pos
  match (cs[pos]?).filter fun c => c == '"' || c == '\'' with
  | some quote =>
    match ← stringAt cs quote (pos + 1) with
    | (some address, pos) => endUrlAt cs address pos
    | (none, pos) => .ok (none, ← badUrlEnd cs pos)
  | none => loop (bareUrlStep cs) (cs.length + 1) ([], pos)

section
variable {cs r : List Char} {pos : Nat}

theorem badUrlEnd_at (h : At cs pos r) :
    ∃ next, badUrlEnd cs pos = .ok next ∧ At cs next (skipBadUrl r) := by
  have hrounds := h.lt_rounds
  unfold badUrlEnd
  generalize cs.length + 1 = rounds at hrounds
  fun_induction skipBadUrl r generalizing pos rounds with
  | case1 => exact ⟨pos, loop_inr (by omega) (by simp [badUrlStep, h.getElem?]), h⟩
  | case2 r => exact ⟨pos + 1, loop_inr (by omega) (by simp [badUrlStep, h.getElem?]), h.next⟩
  | case3 c r ih =>
    simp only [List.length_cons] at hrounds
    rw [loop_inl (pos + 2) (by omega) (by simp [badUrlStep, h.getElem?, h.getElem?_add])]
    exact ih h.next.next (rounds - 1) (by omega)
  | case4 c r hclose hescape ih =>
    simp only [List.length_cons] at hrounds
    have hclosed : c ≠ ')' := hclose
    have hescaped : c = '\\' → r[0]? = none := by
      rintro rfl
      cases r with
      | nil => rfl
      | cons d r => exact (hescape d r rfl rfl).elim
    rw [loop_inl (pos + 1) (by omega)
      (by simpa [badUrlStep, h.getElem?, h.getElem?_add, hclosed] using hescaped)]
    exact ih h.next (rounds - 1) (by omega)

theorem endUrlAt_lands (h : At cs pos r) (address : List Char) :
    Lands cs (endUrlAt cs address pos) (endUrl address r) := by
  obtain ⟨next, hnext, hat⟩ := skipWhile_at Text.isAsciiBlank h
  simp only [endUrlAt, hnext, ok_bind, hat.getElem?, endUrl]
  cases hrest : r.dropWhile Text.isAsciiBlank with
  | nil => exact ⟨_, by simp [(hrest ▸ hat).eq_length], .stop cs⟩
  | cons c u =>
    rw [hrest] at hat
    by_cases hc : c = ')'
    · subst hc
      exact ⟨next + 1, by simp [hat.next.le], hat.next⟩
    · obtain ⟨last, hlast, hend⟩ := badUrlEnd_at hat
      exact ⟨last, by simp [hc, hlast], by simpa [hc] using hend⟩

theorem endUrl_map (address more cs : List Char) :
    endUrl (address ++ more) cs = ((endUrl more cs).1.map (address ++ ·), (endUrl more cs).2) := by
  unfold endUrl
  split <;> rfl

theorem bareUrl_lands (h : At cs pos r) {rounds : Nat} (hrounds : r.length < rounds)
    (address : List Char) : Lands cs (loop (bareUrlStep cs) rounds (address, pos))
      ((readBareUrl r).1.map (address ++ ·), (readBareUrl r).2) := by
  fun_induction readBareUrl r generalizing pos rounds address with
  | case1 => exact .of_loop_inr (by omega) (by simp [bareUrlStep, h.getElem?]) h
  | case2 c r hclose =>
    exact .of_loop_inr (by omega) (by simp [bareUrlStep, h.getElem?, hclose]) h.next
  | case3 c r hclose hblank =>
    obtain ⟨last, hlast, hend⟩ := endUrlAt_lands h address
    have heq : endUrl address (c :: r) = endUrl address r := by simp [endUrl, hblank]
    rw [heq] at hlast hend
    have hmap := endUrl_map address [] r
    rw [List.append_nil] at hmap
    rw [← hmap]
    exact .of_loop_inr (by omega) (by simp [bareUrlStep, h.getElem?, hclose, hblank, hlast]) hend
  | case4 c r hclose hblank hbad =>
    obtain ⟨last, hlast, hend⟩ := badUrlEnd_at h
    refine .of_loop_inr (by omega) ?_ hend
    simp only [bareUrlStep, h.getElem?, List.getElem?_cons_zero, hclose, hblank, hbad, hlast]
    rfl
  | case5 c r hclose hblank hbad hescape hstarts hlen more rest hmore ih =>
    simp only [List.length_cons] at hrounds
    obtain ⟨next, hnext, hat⟩ := escapeAt_lands h.next
    refine .of_loop_inl (address ++ [(readEscape r).1], next) (by omega) ?_ ?_
    · simp only [bareUrlStep, h.getElem?, List.getElem?_cons_zero, hclose, hblank, hbad, hescape,
        startsEscapeAt_eq h, hstarts, hnext]
      rfl
    · simpa [hmore, Function.comp_def] using ih hat (by omega) (address ++ [(readEscape r).1])
  | case6 c r hclose hblank hbad hescape hstarts =>
    obtain ⟨last, hlast, hend⟩ := badUrlEnd_at h
    refine .of_loop_inr (by omega) ?_ hend
    simp only [bareUrlStep, h.getElem?, List.getElem?_cons_zero, hclose, hblank, hbad, hescape,
      startsEscapeAt_eq h, hstarts, hlast]
    rfl
  | case7 c r hclose hblank hbad hescape more rest hmore ih =>
    simp only [List.length_cons] at hrounds
    refine .of_loop_inl (address ++ [c], pos + 1) (by omega) ?_ ?_
    · simp only [bareUrlStep, h.getElem?, List.getElem?_cons_zero, hclose, hblank, hbad, hescape]
      rfl
    · simpa [hmore, Function.comp_def] using ih h.next (by omega) (address ++ [c])

theorem urlAt_lands (h : At cs pos r) : Lands cs (urlAt cs pos) (readUrl r) := by
  obtain ⟨next, hnext, hat⟩ := skipWhile_at Text.isAsciiBlank h
  simp only [urlAt, hnext, ok_bind, hat.getElem?, readUrl]
  cases hrest : r.dropWhile Text.isAsciiBlank with
  | nil =>
    rw [hrest] at hat
    simpa [readBareUrl] using bareUrl_lands hat hat.lt_rounds []
  | cons c u =>
    rw [hrest] at hat
    by_cases hc : c == '"' || c == '\''
    · obtain ⟨last, hlast, hend⟩ := stringAt_lands hat.next c
      simp only [List.getElem?_cons_zero, Option.filter_some, hc, if_true, hlast, ok_bind]
      cases hvalue : readString c u with
      | mk value rest =>
        rw [hvalue] at hend
        cases value with
        | none =>
          obtain ⟨after, hafter, hbad⟩ := badUrlEnd_at hend
          exact ⟨after, by simp [hafter], hbad⟩
        | some address => exact endUrlAt_lands hend address
    · simp only [List.getElem?_cons_zero, Option.filter_some, hc]
      simpa using bareUrl_lands hat hat.lt_rounds []

end

end WebStyle.Cursor
