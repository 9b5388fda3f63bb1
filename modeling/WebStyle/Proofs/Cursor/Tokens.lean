import WebStyle.Proofs.Cursor.Basic
import WebStyle.Proofs.Token.Nesting
import WebStyle.Sheet.Error
/-!
Runs of tokens by positions: cutting off blanks at both ends, the end of a group or of a block,
whose depth is counted up and down, and the pieces between separators, each of them a slice. Their
texts are cut at a number of bytes. A place inside of a character is none to cut at, and the places
where canonical texts and snippets are cut are none of those.
-/
set_option autoImplicit false

namespace WebStyle.Cursor

variable {α : Type}

/-- A run of tokens without the blanks at its ends. -/
def trim (l : List Token) : Checked (List Token) :=
  let start := (l.findIdx? (!·.isBlank)).getD l.length
  let last := (l.reverse.findIdx? (!·.isBlank)).map (l.length - 1 - ·)
  slice l start ((last.map (· + 1)).getD start)

def skipBlanksAt (tokens : List Token) (pos : Nat) : Checked Nat :=
  skipWhile Token.isBlank tokens pos

/-- The index of the parenthesis that closes a group, among the tokens from index `i` on. -/
def closeAt (depth i : Nat) : List Token → Checked (Option Nat)
  | [] => .ok none
  | t :: ts =>
    if t.opensArguments then closeAt (depth + 1) (i + 1) ts
    else if t == .closeParen then
      if depth == 0 then .ok (some i)
      else do closeAt (← decrease depth 1) (i + 1) ts
    else closeAt depth (i + 1) ts

/-- The index of the brace that closes a block, among the tokens from index `i` on. -/
def blockEndAt (depth i : Nat) : List Token → Checked (Option Nat)
  | [] => .ok none
  | t :: ts =>
    if t == .openBrace then blockEndAt (depth + 1) (i + 1) ts
    else if t == .closeBrace then do
      let depth ← decrease depth 1
      if depth == 0 then .ok (some i) else blockEndAt depth (i + 1) ts
    else blockEndAt depth (i + 1) ts

/-- The pieces between separators outside groups. The first of them starts at `start`, and the
elements from index `i` on are still to be seen. -/
def piecesAt (opens closes separates : α → Bool) (l : List α) (start depth i : Nat) :
    List α → Checked (List (List α))
  | [] => do .ok [← slice l start l.length]
  | x :: xs =>
    if opens x then piecesAt opens closes separates l start (depth + 1) (i + 1) xs
    else if closes x then piecesAt opens closes separates l start (depth - 1) (i + 1) xs
    else if separates x && depth == 0 then do
      let piece ← slice l start i
      .ok (piece :: (← piecesAt opens closes separates l (i + 1) depth (i + 1) xs))
    else piecesAt opens closes separates l start depth (i + 1) xs

theorem findIdx?_of_append {p : α → Bool} {before after : List α} {x : α}
    (h : ∀ y ∈ before, p y = false) (hx : p x) :
    (before ++ x :: after).findIdx? p = some before.length := by
  have hnone : before.findIdx? p = none := List.findIdx?_eq_none_iff.2 h
  simp [List.findIdx?_append, hnone, List.findIdx?_cons, hx]

theorem trim_eq (l : List Token) : trim l = .ok (trimBlanks l) := by
  unfold trim
  by_cases hnil : trimBlanks l = []
  · have hblank : ∀ t ∈ l, (!t.isBlank) = false := by
      simpa using trimBy_eq_nil_iff.1 hnil
    have hfirst : l.findIdx? (!·.isBlank) = none := List.findIdx?_eq_none_iff.2 hblank
    have hlast : l.reverse.findIdx? (!·.isBlank) = none :=
      List.findIdx?_eq_none_iff.2 fun t ht => hblank t (List.mem_reverse.1 ht)
    rw [hnil, hfirst, hlast]
    exact (At.stop l).slice_rest
  · obtain ⟨htight, before, after, hbefore, hafter, heq⟩ := Tight.of_trimBlanks hnil
    have hfirst : l.findIdx? (!·.isBlank) = some before.length := by
      obtain ⟨t, r, htrim, ht⟩ := htight.head
      rw [heq, htrim, List.append_assoc, List.cons_append]
      exact findIdx?_of_append (by simpa using hbefore) (by simp [ht])
    have hlast : l.reverse.findIdx? (!·.isBlank) = some after.length := by
      obtain ⟨r, t, htrim, ht⟩ := htight.last
      rw [heq, htrim]
      rw [← after.length_reverse]
      simp only [List.reverse_append, List.reverse_singleton, List.cons_append]
      exact findIdx?_of_append (by simpa using hafter) (by simp [ht])
    rw [hfirst, hlast]
    have hat : At l before.length (trimBlanks l ++ after) :=
      .of_append (by rw [← List.append_assoc]; exact heq)
    have hlength := hat.length
    have hpos := List.length_pos_iff.2 hnil
    rw [List.length_append] at hlength
    rw [← hat.slice]
    simp only [Option.getD_some, Option.map_some]
    congr 1
    omega

theorem skipBlanksAt_at {tokens r : List Token} {pos : Nat} (h : At tokens pos r) :
    ∃ next, skipBlanksAt tokens pos = .ok next ∧ At tokens next (skipBlanks r) :=
  skipWhile_at Token.isBlank h

/-! ### Groups and blocks -/

theorem splitAtClose?_eq {opens closes : α → Bool} {depth : Nat} {l : List α} {p : List α × List α}
    (h : splitAtClose? opens closes depth l = some p) : ∃ x, closes x ∧ l = p.1 ++ x :: p.2 := by
  induction l generalizing depth p with
  | nil => cases h
  | cons y l ih =>
    have hmap : ∀ {d : Nat},
        (splitAtClose? opens closes d l).map (fun q => (y :: q.1, q.2)) = some p →
          ∃ x, closes x ∧ y :: l = p.1 ++ x :: p.2 := by
      intro d hd
      obtain ⟨q, hq, rfl⟩ := Option.map_eq_some_iff.1 hd
      obtain ⟨x, hx, rfl⟩ := ih hq
      exact ⟨x, hx, rfl⟩
    simp only [splitAtClose?] at h
    split at h
    · rename_i hy
      split at h
      · obtain rfl := Option.some.inj h
        exact ⟨y, hy, rfl⟩
      · exact hmap h
    · exact hmap h

theorem At.group {opens closes : α → Bool} {l r : List α} {pos : Nat} (h : At l pos r)
    {p : List α × List α} (hp : splitAtClose? opens closes 0 r = some p) :
    Cursor.slice l pos (pos + p.1.length) = .ok p.1 ∧ At l (pos + p.1.length + 1) p.2 := by
  obtain ⟨x, -, rfl⟩ := splitAtClose?_eq hp
  exact ⟨h.slice, h.add.next⟩

theorem closeAt_eq (depth i : Nat) (ts : List Token) :
    closeAt depth i ts = .ok
      ((splitAtClose? Token.opensArguments (· == .closeParen) depth ts).map (i + ·.1.length)) := by
  induction ts generalizing depth i with
  | nil => rfl
  | cons t ts ih =>
    simp only [closeAt, splitAtClose?]
    by_cases hclose : t = .closeParen
    · subst hclose
      cases depth with
      | zero => rfl
      | succ depth =>
        simp [Token.opensArguments, decrease, ih, Function.comp_def, Nat.add_assoc, Nat.add_comm 1]
    · by_cases hopen : t.opensArguments <;>
        simp [hopen, hclose, ih, Function.comp_def, Nat.add_assoc, Nat.add_comm 1]

/-- One brace is open before the tokens at least, so the depth never goes below zero. -/
theorem blockEndAt_eq (depth i : Nat) (ts : List Token) :
    blockEndAt (depth + 1) i ts = .ok
      ((splitAtClose? (· == .openBrace) (· == .closeBrace) depth ts).map (i + ·.1.length)) := by
  induction ts generalizing depth i with
  | nil => rfl
  | cons t ts ih =>
    simp only [blockEndAt, splitAtClose?]
    by_cases hclose : t = .closeBrace
    · subst hclose
      cases depth with
      | zero => rfl
      | succ depth =>
        simp [decrease, ih, Function.comp_def, Nat.add_assoc, Nat.add_comm 1]
    · by_cases hopen : t = .openBrace <;>
        simp [hopen, hclose, ih, Function.comp_def, Nat.add_assoc, Nat.add_comm 1]

/-! ### Pieces -/

@[simp] theorem modifyHead_self (l : List α) : l.modifyHead (fun x => x) = l := by
  cases l <;> rfl

theorem splitOutside_inside (opens closes separates : α → Bool) {depth : Nat} {x : α}
    (hx : (separates x && depth == 0) = false) (xs : List α) :
    splitOutside opens closes separates depth (x :: xs) =
      (splitOutside opens closes separates
        (if opens x then depth + 1 else if closes x then depth - 1 else depth) xs).modifyHead
          (x :: ·) := by
  simp only [splitOutside, hx, Bool.false_eq_true, if_false]
  split
  · rename_i hnil
    exact absurd hnil (splitOutside_ne_nil _ _ _ _ _)
  · rename_i hsplit
    simp [hsplit]

/-- The start of a piece is never behind the place where it ends. -/
theorem piecesAt_eq {opens closes separates : α → Bool}
    (hplain : ∀ x, separates x → opens x = false ∧ closes x = false) {l piece xs : List α}
    {start : Nat} (h : At l start (piece ++ xs)) (depth : Nat) :
    piecesAt opens closes separates l start depth (start + piece.length) xs =
      .ok ((splitOutside opens closes separates depth xs).modifyHead (piece ++ ·)) := by
  induction xs generalizing start piece depth with
  | nil =>
    rw [piecesAt, h.slice_rest]
    simp [splitOutside]
  | cons x xs ih =>
    have hnext : ∀ depth,
        piecesAt opens closes separates l start depth (start + piece.length + 1) xs = .ok
          ((splitOutside opens closes separates depth xs).modifyHead ((piece ++ [x]) ++ ·)) := by
      intro depth
      have := ih (show At l start ((piece ++ [x]) ++ xs) by simpa using h) depth
      simpa [Nat.add_assoc] using this
    rw [piecesAt]
    by_cases hseparates : separates x && depth == 0
    · obtain ⟨hx, hdepth⟩ := Bool.and_eq_true_iff.1 hseparates
      have hrest := ih (show At l (start + piece.length + 1) ([] ++ xs) from h.add.next) depth
      simp only [List.length_nil, Nat.add_zero] at hrest
      simp [hplain x hx, hseparates, h.slice, hrest, splitOutside]
    · have hx : (separates x && depth == 0) = false := Bool.eq_false_iff.2 hseparates
      rw [splitOutside_inside opens closes separates hx, List.modifyHead_modifyHead]
      simp only [hnext, hx]
      split
      · simp [*, Function.comp_def]
      · split <;> simp [*, Function.comp_def]

/-- The pieces of a whole run. -/
theorem piecesAt_start {opens closes separates : α → Bool}
    (hplain : ∀ x, separates x → opens x = false ∧ closes x = false) (l : List α) :
    piecesAt opens closes separates l 0 0 0 l = .ok (splitOutside opens closes separates 0 l) := by
  have := piecesAt_eq hplain (show At l 0 ([] ++ l) from .start l) 0
  simpa using this

/-! ### Texts -/

/-- The bytes that a text takes in UTF-8. -/
def byteLength : List Char → Nat
  | [] => 0
  | c :: cs => c.utf8Size + byteLength cs

/-- The characters that take so many bytes, if characters end there. -/
def cut? : List Char → Nat → Option (List Char)
  | _, 0 => some []
  | [], _ + 1 => none
  | c :: cs, n + 1 =>
    if c.utf8Size ≤ n + 1 then (cut? cs (n + 1 - c.utf8Size)).map (c :: ·) else none

/-- Shortens a text to a number of bytes. -/
def truncate (cs : List Char) (bytes : Nat) : Checked (List Char) :=
  if byteLength cs ≤ bytes then .ok cs
  else match cut? cs bytes with
    | some piece => .ok piece
    | none => .error (.fault .cut)

/-- The canonical text of tokens; the blanks at its end are cut off. -/
def text (tokens : List Token) : Checked (List Char) :=
  let written := Printer.run none false tokens
  truncate written (byteLength (written.reverse.dropWhile Text.isBlank).reverse)

/-- Records that tokens were dropped, with a text that is cut at the last place up to the limit
where a character ends. -/
def dropped (cause : DropCause) (tokens : List Token) : Checked Dropped := do
  let written ← text tokens
  if Dropped.snippetLimit < byteLength written then
    let places := (List.range (Dropped.snippetLimit + 1)).reverse
    let bytes := (places.find? fun n => (cut? written n).isSome).getD 0
    .ok ⟨cause, String.ofList (← truncate written bytes)⟩
  else .ok ⟨cause, String.ofList written⟩

@[simp] theorem byteLength_nil : byteLength [] = 0 := rfl

@[simp] theorem byteLength_cons (c : Char) (cs : List Char) :
    byteLength (c :: cs) = c.utf8Size + byteLength cs := rfl

@[simp] theorem byteLength_append (cs ds : List Char) :
    byteLength (cs ++ ds) = byteLength cs + byteLength ds := by
  induction cs with
  | nil => simp
  | cons c cs ih => simp [ih, Nat.add_assoc]

theorem eq_nil_of_byteLength {cs : List Char} (h : byteLength cs = 0) : cs = [] := by
  cases cs with
  | nil => rfl
  | cons c cs =>
    have := c.utf8Size_pos
    rw [byteLength_cons] at h
    omega

/-- Characters end exactly where a start of the text does. -/
theorem cut?_eq_some_iff {cs piece : List Char} {n : Nat} :
    cut? cs n = some piece ↔ piece <+: cs ∧ byteLength piece = n := by
  induction cs generalizing n piece with
  | nil =>
    rw [List.prefix_nil]
    cases n with
    | zero => exact ⟨fun h => Option.some.inj h ▸ ⟨rfl, rfl⟩, fun h => congrArg some h.1.symm⟩
    | succ n =>
      refine iff_of_false nofun ?_
      rintro ⟨rfl, hbytes⟩
      cases hbytes
  | cons c cs ih =>
    cases n with
    | zero =>
      exact ⟨fun h => Option.some.inj h ▸ ⟨List.nil_prefix, rfl⟩,
        fun h => congrArg some (eq_nil_of_byteLength h.2).symm⟩
    | succ n =>
      rw [cut?]
      cases piece with
      | nil =>
        constructor
        · intro h
          split at h <;> simp at h
        · intro h
          cases h.2
      | cons d piece =>
        have hpos := c.utf8Size_pos
        rw [List.cons_prefix_cons, byteLength_cons]
        split
        · simp only [Option.map_eq_some_iff, List.cons.injEq, ih]
          constructor
          · rintro ⟨_, ⟨hlead, hbytes⟩, rfl, rfl⟩
            exact ⟨⟨rfl, hlead⟩, by omega⟩
          · rintro ⟨⟨rfl, hlead⟩, hbytes⟩
            exact ⟨piece, ⟨hlead, by omega⟩, rfl, rfl⟩
        · refine iff_of_false nofun ?_
          rintro ⟨⟨rfl, -⟩, hbytes⟩
          omega

theorem truncate_of_isPrefix {cs piece : List Char} (h : piece <+: cs) :
    truncate cs (byteLength piece) = .ok piece := by
  unfold truncate
  split
  · rename_i hle
    obtain ⟨more, rfl⟩ := h
    rw [byteLength_append] at hle
    rw [eq_nil_of_byteLength (show byteLength more = 0 by omega), List.append_nil]
  · rw [cut?_eq_some_iff.2 ⟨h, rfl⟩]

theorem text_eq (tokens : List Token) : text tokens = .ok (tokensText tokens).toList := by
  have hlead : ∀ cs : List Char, (cs.reverse.dropWhile Text.isBlank).reverse <+: cs := fun cs =>
    List.reverse_suffix.1 (by simpa using List.dropWhile_suffix Text.isBlank)
  rw [text, truncate_of_isPrefix (hlead _), tokensText, String.toList_ofList]

/-! ### Snippets -/

theorem takeBytes_isPrefix (limit : Nat) (cs : List Char) : Text.takeBytes limit cs <+: cs := by
  fun_induction Text.takeBytes limit cs with
  | case1 => exact List.nil_prefix
  | case2 limit c cs _ ih => exact List.cons_prefix_cons.2 ⟨rfl, ih⟩
  | case3 => exact List.nil_prefix

theorem byteLength_takeBytes_le (limit : Nat) (cs : List Char) :
    byteLength (Text.takeBytes limit cs) ≤ limit := by
  fun_induction Text.takeBytes limit cs with
  | case1 => exact Nat.zero_le _
  | case2 limit c cs _ ih => simp only [byteLength_cons]; omega
  | case3 => exact Nat.zero_le _

/-- No start of the text that stays within the limit is longer. -/
theorem byteLength_le_takeBytes {limit : Nat} {cs piece : List Char} (h : piece <+: cs)
    (hle : byteLength piece ≤ limit) : byteLength piece ≤ byteLength (Text.takeBytes limit cs) := by
  fun_induction Text.takeBytes limit cs generalizing piece with
  | case1 => simp [List.prefix_nil.1 h]
  | case2 limit c cs hc ih =>
    cases piece with
    | nil => exact Nat.zero_le _
    | cons d piece =>
      obtain ⟨rfl, hrest⟩ := List.cons_prefix_cons.1 h
      simp only [byteLength_cons] at hle ⊢
      refine Nat.add_le_add_left (ih hrest ?_) _
      omega
  | case3 limit c cs hc =>
    cases piece with
    | nil => exact Nat.zero_le _
    | cons d piece =>
      obtain ⟨rfl, -⟩ := List.cons_prefix_cons.1 h
      rw [byteLength_cons] at hle
      omega

theorem find?_reverse_range {p : Nat → Bool} {n k : Nat} (hn : n < k) (hp : p n)
    (hmax : ∀ m, n < m → m < k → p m = false) : (List.range k).reverse.find? p = some n := by
  induction k with
  | zero => omega
  | succ k ih =>
    rw [List.range_succ, List.reverse_append, List.reverse_singleton, List.singleton_append]
    by_cases hk : n = k
    · subst hk
      exact List.find?_cons_of_pos hp
    · rw [List.find?_cons_of_neg (by simp [hmax k (by omega) (by omega)])]
      exact ih (by omega) fun m hm hmk => hmax m hm (by omega)

theorem dropped_eq (cause : DropCause) (tokens : List Token) :
    dropped cause tokens = .ok (.ofTokens cause tokens) := by
  rw [dropped, text_eq, ok_bind, Dropped.ofTokens]
  generalize (tokensText tokens).toList = cs
  have hlead := takeBytes_isPrefix Dropped.snippetLimit cs
  split
  · have hplace : ((List.range (Dropped.snippetLimit + 1)).reverse.find? fun n =>
        (cut? cs n).isSome) = some (byteLength (Text.takeBytes Dropped.snippetLimit cs)) := by
      refine find?_reverse_range (Nat.lt_succ_of_le (byteLength_takeBytes_le _ cs)) ?_ ?_
      · rw [cut?_eq_some_iff.2 ⟨hlead, rfl⟩]
        rfl
      · intro m hlt hm
        rw [Option.isSome_eq_false_iff, Option.isNone_iff_eq_none,
          Option.eq_none_iff_forall_ne_some]
        intro piece hpiece
        obtain ⟨hstart, rfl⟩ := cut?_eq_some_iff.1 hpiece
        have := byteLength_le_takeBytes hstart (Nat.le_of_lt_succ hm)
        omega
    simp only [hplace, Option.getD_some, truncate_of_isPrefix hlead, ok_bind]
  · rename_i hshort
    have := byteLength_le_takeBytes List.prefix_rfl (Nat.not_lt.1 hshort)
    obtain ⟨more, hmore⟩ := hlead
    have hlength := congrArg byteLength hmore
    rw [byteLength_append] at hlength
    rw [eq_nil_of_byteLength (show byteLength more = 0 by omega), List.append_nil] at hmore
    rw [hmore]

end WebStyle.Cursor
