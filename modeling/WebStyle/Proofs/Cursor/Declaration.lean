import WebStyle.Proofs.Block.Legible
import WebStyle.Proofs.Cursor.Tokens
/-!
Declarations by positions: the mark of a priority is found by index and splits a value in two
slices, and each declaration of a block is the slice up to the next semicolon outside groups.
-/
set_option autoImplicit false

namespace WebStyle.Cursor

/-- The index of the exclamation mark outside groups, among the tokens from index `i` on. A second
one is refused. -/
def markAt (mark : Option Nat) (depth i : Nat) : List Token → Checked (Option Nat)
  | [] => .ok mark
  | t :: ts =>
    if t.opensGroup then markAt mark (depth + 1) (i + 1) ts
    else if t.closesGroup then markAt mark (depth - 1) (i + 1) ts
    else if t == .delim '!' && depth == 0 then
      if mark.isSome then .error .refused else markAt (some i) depth (i + 1) ts
    else markAt mark depth (i + 1) ts

/-- Takes the priority off a value. -/
def splitPriority (value : List Token) : Checked (List Token × Bool) := do
  let value ← trim value
  match ← markAt none 0 0 value with
  | none => .ok (value, false)
  | some mark =>
    match ← trim (← slice value (mark + 1) value.length) with
    | [flag] =>
      if flag.isIdent "important" then .ok (← trim (← slice value 0 mark), true)
      else .error .refused
    | _ => .error .refused

def declaration (ts : List Token) : Checked Declaration := do
  match ← trim ts with
  | .ident name :: r =>
    match ← trim r with
    | .colon :: value =>
      let (value, important) ← splitPriority value
      let custom := isCustomName name
      if !value.all Declaration.allowsToken || (value.isEmpty && !custom) then .error .refused
      else .ok ⟨if custom then name else Text.lower name, String.ofList (← text value), important⟩
    | _ => .error .refused
  | _ => .error .refused

/-- The index of the semicolon that ends a declaration, or of the end, among the tokens from index
`i` on. -/
def declarationEnd (depth i : Nat) : List Token → Nat
  | [] => i
  | t :: ts =>
    if Declaration.opensGroup t then declarationEnd (depth + 1) (i + 1) ts
    else if Declaration.closesGroup t then declarationEnd (depth - 1) (i + 1) ts
    else if t == .semicolon && depth == 0 then i
    else declarationEnd depth (i + 1) ts

def declarationsStep (tokens : List Token) :
    (List Declaration × List Dropped) × Nat →
      Checked (((List Declaration × List Dropped) × Nat) ⊕ (List Declaration × List Dropped))
  | (seen, pos) => do
    if pos < tokens.length then
      let t ← index tokens pos
      if t == .blank || t == .semicolon then .ok (.inl (seen, pos + 1))
      else
        let stop := declarationEnd 0 pos (tokens.drop pos)
        let chunk ← slice tokens pos stop
        match ← attempt (declaration chunk) with
        | some d => .ok (.inl ((seen.1 ++ [d], seen.2), stop + 1))
        | none =>
          let d ← dropped .invalidDeclaration chunk
          .ok (.inl ((seen.1, seen.2 ++ [d]), stop + 1))
    else .ok (.inr seen)

/-- The declarations of a block, and the pieces of it that make none. -/
def declarations (tokens : List Token) : Checked (List Declaration × List Dropped) :=
  loop (declarationsStep tokens) (tokens.length + 1) (([], []), 0)

/-! ### Priorities -/

/-- What comes of the search for a mark, from the pieces between all of them. -/
def markOf (mark : Option Nat) (i : Nat) : List (List Token) → Checked (Option Nat)
  | [_] => .ok mark
  | [before, _] => if mark.isSome then .error .refused else .ok (some (i + before.length))
  | _ => .error .refused

theorem markOf_modifyHead (mark : Option Nat) (i : Nat) (t : Token) (pieces : List (List Token)) :
    markOf mark i (pieces.modifyHead (t :: ·)) = markOf mark (i + 1) pieces := by
  rcases pieces with _ | ⟨before, _ | ⟨after, _ | ⟨more, pieces⟩⟩⟩ <;>
    simp [markOf, Nat.add_assoc, Nat.add_comm 1]

theorem markOf_mark {pieces : List (List Token)} (h : pieces ≠ []) (mark : Option Nat) (i : Nat) :
    markOf mark i ([] :: pieces) =
      if mark.isSome then .error .refused else markOf (some i) (i + 1) pieces := by
  rcases pieces with _ | ⟨before, _ | ⟨after, _ | ⟨more, pieces⟩⟩⟩
  · exact absurd rfl h
  all_goals cases mark <;> rfl

theorem markAt_eq (mark : Option Nat) (depth i : Nat) (ts : List Token) :
    markAt mark depth i ts = markOf mark i
      (splitOutside Token.opensGroup Token.closesGroup (· == .delim '!') depth ts) := by
  induction ts generalizing mark depth i with
  | nil => rfl
  | cons t ts ih =>
    by_cases hmark : (t == .delim '!' && depth == 0) = true
    · have hsplit :
          splitOutside Token.opensGroup Token.closesGroup (· == .delim '!') depth (t :: ts) =
            [] :: splitOutside Token.opensGroup Token.closesGroup (· == .delim '!') depth ts := by
        simp only [splitOutside, hmark, if_true]
      obtain rfl : t = .delim '!' := by simpa using (Bool.and_eq_true_iff.1 hmark).1
      rw [hsplit, markOf_mark (splitOutside_ne_nil _ _ _ _ _), ← ih]
      simp only [markAt, hmark, Token.opensGroup, Token.closesGroup, if_true]
      rfl
    · have ht : (t == .delim '!' && depth == 0) = false := Bool.eq_false_iff.2 hmark
      rw [splitOutside_inside Token.opensGroup Token.closesGroup (fun t => t == .delim '!') ht,
        markOf_modifyHead, ← ih]
      simp only [markAt, ht]
      split
      · rfl
      · split <;> rfl

theorem splitPriority_eq (value : List Token) :
    splitPriority value = ofOption (Declaration.splitPriority? value) := by
  simp only [splitPriority, trim_eq, ok_bind, markAt_eq, Declaration.splitPriority?]
  generalize trimBlanks value = ts
  rcases splitOutside_cases Token.opensGroup Token.closesGroup (· == .delim '!') 0 ts with
    hsplit | ⟨before, t, after, rfl, -, -, hsplit⟩
  · simp only [hsplit, markOf]
    rfl
  · rw [hsplit]
    have hmark : At (before ++ t :: after) before.length (t :: after) := .of_append rfl
    have hbefore := (At.start (before ++ t :: after)).slice
    rw [Nat.zero_add] at hbefore
    cases hrest : splitOutside Token.opensGroup Token.closesGroup (· == .delim '!') 0 after with
    | nil => exact absurd hrest (splitOutside_ne_nil _ _ _ _ _)
    | cons piece pieces =>
      cases pieces with
      | nil =>
        obtain rfl := eq_of_splitOutside_eq_singleton hrest
        simp only [markOf, Option.isSome_none, Bool.false_eq_true, if_false, Nat.zero_add, ok_bind,
          hmark.next.slice_rest, hbefore]
        rcases trimBlanks piece with _ | ⟨flag, _ | ⟨other, us⟩⟩
        · rfl
        · simp only
          split <;> rfl
        · rfl
      | cons other pieces => rfl

theorem declaration_eq (ts : List Token) :
    declaration ts = ofOption (Declaration.ofTokens? ts) := by
  simp only [declaration, trim_eq, ok_bind, splitPriority_eq, text_eq, Declaration.ofTokens?,
    String.ofList_toList]
  rcases trimBlanks ts with _ | ⟨t, r⟩
  · rfl
  · cases t with
    | ident name =>
      simp only
      rcases trimBlanks r with _ | ⟨t, value⟩
      · rfl
      · cases t with
        | colon =>
          simp only
          cases Declaration.splitPriority? _ with
          | none => rfl
          | some p =>
            simp only [ofOption, ok_bind, Option.bind_eq_bind, Option.bind_some]
            split <;> rfl
        | _ => rfl
    | _ => rfl

/-! ### Blocks -/

theorem declarationEnd_eq (depth i : Nat) (ts : List Token) :
    declarationEnd depth i ts = i + ((splitOutside Declaration.opensGroup Declaration.closesGroup
      (· == .semicolon) depth ts).headD []).length := by
  induction ts generalizing depth i with
  | nil => rfl
  | cons t ts ih =>
    by_cases hend : (t == .semicolon && depth == 0) = true
    · obtain ⟨rfl, rfl⟩ : t = .semicolon ∧ depth = 0 := by simpa using hend
      rfl
    · have ht : (t == .semicolon && depth == 0) = false := Bool.eq_false_iff.2 hend
      have hhead : ∀ pieces : List (List Token), pieces ≠ [] →
          ((pieces.modifyHead (t :: ·)).headD []).length = (pieces.headD []).length + 1 := by
        intro pieces hne
        cases pieces with
        | nil => exact absurd rfl hne
        | cons piece pieces => rfl
      rw [splitOutside_inside Declaration.opensGroup Declaration.closesGroup
        (fun t => t == .semicolon) ht, hhead _ (splitOutside_ne_nil _ _ _ _ _), Nat.add_comm _ 1,
        ← Nat.add_assoc, ← ih]
      simp only [declarationEnd, ht]
      split
      · rfl
      · split <;> rfl

section Pieces
open WebStyle.Declaration

/-- The declarations that pieces make, and the pieces that make none; blank pieces count as
neither. -/
def ofPieces (pieces : List (List Token)) : List Declaration × List Dropped :=
  let kept := pieces.filter (!·.all Token.isBlank)
  (kept.filterMap ofTokens?,
   kept.filterMap fun piece =>
     if (ofTokens? piece).isNone then some (.ofTokens .invalidDeclaration piece) else none)

theorem listOfTokens_eq (ts : List Token) : listOfTokens ts =
    ofPieces (splitOutside opensGroup closesGroup (· == .semicolon) 0 ts) := rfl

/-- A blank before a piece makes no difference. -/
theorem listOfTokens_blank (ts : List Token) : listOfTokens (.blank :: ts) = listOfTokens ts := by
  have hsplit := splitOutside_inside opensGroup closesGroup (fun t => t == .semicolon)
    (show (Token.blank == .semicolon && 0 == 0) = false by rfl) ts
  rw [listOfTokens_eq, listOfTokens_eq, hsplit]
  change ofPieces (List.modifyHead _ (splitOutside opensGroup closesGroup _ 0 ts)) = _
  cases splitOutside opensGroup closesGroup (· == .semicolon) 0 ts with
  | nil => rfl
  | cons piece pieces =>
    have hread : ofTokens? (.blank :: piece) = ofTokens? piece := ofTokens?_congr rfl
    have hdropped : Dropped.ofTokens .invalidDeclaration (.blank :: piece) =
        .ofTokens .invalidDeclaration piece := rfl
    simp only [ofPieces, List.modifyHead_cons, List.filter_cons, List.all_cons, Token.isBlank,
      Bool.true_and]
    split
    · simp only [List.filterMap_cons, hread, hdropped]
    · rfl

/-- What was seen before, and what a piece adds to it. -/
def note (seen : List Declaration × List Dropped) (piece : List Token) :
    List Declaration × List Dropped :=
  match ofTokens? piece with
  | some d => (seen.1 ++ [d], seen.2)
  | none => (seen.1, seen.2 ++ [.ofTokens .invalidDeclaration piece])

theorem note_append {piece : List Token} (h : piece.all Token.isBlank = false)
    (pieces : List (List Token)) (seen : List Declaration × List Dropped) :
    ((note seen piece).1 ++ (ofPieces pieces).1, (note seen piece).2 ++ (ofPieces pieces).2) =
      (seen.1 ++ (ofPieces (piece :: pieces)).1, seen.2 ++ (ofPieces (piece :: pieces)).2) := by
  simp only [note, ofPieces, List.filter_cons, h, Bool.not_false, if_true, List.filterMap_cons]
  cases ofTokens? piece <;> simp

end Pieces

section Loop
variable {tokens r piece : List Token} {pos rounds : Nat} {t : Token}

theorem declarationsStep_skip (h : At tokens pos (t :: r)) (ht : t = .blank ∨ t = .semicolon)
    (seen : List Declaration × List Dropped) :
    declarationsStep tokens (seen, pos) = .ok (.inl (seen, pos + 1)) := by
  simp [declarationsStep, h.lt, h.index, ht]

/-- A step over one piece, which is the slice up to its end. -/
theorem declarationsStep_piece (h : At tokens pos (t :: (piece ++ r)))
    (ht : ¬ (t = .blank ∨ t = .semicolon))
    (hend : declarationEnd 0 pos (t :: (piece ++ r)) = pos + (t :: piece).length)
    (seen : List Declaration × List Dropped) :
    declarationsStep tokens (seen, pos) =
      .ok (.inl (note seen (t :: piece), pos + (t :: piece).length + 1)) := by
  have hslice := (show At tokens pos ((t :: piece) ++ r) from h).slice
  have hskip : (t == .blank || t == .semicolon) = false := by simpa using ht
  simp only [declarationsStep, h.lt, if_true, h.index, ok_bind, hskip, h.drop, hend, hslice,
    declaration_eq, attempt_ofOption, Bool.false_eq_true, if_false, note]
  cases Declaration.ofTokens? (t :: piece) with
  | some d => rfl
  | none => simp [dropped_eq]

/-- The loop ends at the end of the tokens, or one place behind it. -/
theorem declarationsStep_end (h : tokens.length ≤ pos) (seen : List Declaration × List Dropped) :
    declarationsStep tokens (seen, pos) = .ok (.inr seen) := by
  simp [declarationsStep, Nat.not_lt.2 h]

theorem declarations_loop (h : At tokens pos r) (hrounds : r.length < rounds)
    (seen : List Declaration × List Dropped) :
    loop (declarationsStep tokens) rounds (seen, pos) =
      .ok (seen.1 ++ (Declaration.listOfTokens r).1, seen.2 ++ (Declaration.listOfTokens r).2) := by
  induction hn : r.length using Nat.strong_induction_on generalizing r pos rounds seen with
  | _ n ih =>
  cases r with
  | nil =>
    rw [loop_inr hrounds (declarationsStep_end h.eq_length.ge seen)]
    simp [Declaration.listOfTokens, Declaration.chunks, splitOutside]
  | cons t r =>
    simp only [List.length_cons] at hrounds hn
    by_cases ht : t = .blank ∨ t = .semicolon
    · rw [loop_inl _ (by omega) (declarationsStep_skip h ht seen),
        ih r.length (by omega) h.next (by omega) seen rfl]
      rcases ht with rfl | rfl
      · rw [listOfTokens_blank]
      · rfl
    · have hpiece : ∀ piece : List Token, (t :: piece).all Token.isBlank = false := fun piece => by
        cases t <;> simp_all [Token.isBlank]
      rcases splitOutside_cases Declaration.opensGroup Declaration.closesGroup (· == .semicolon) 0
        (t :: r) with hsplit | ⟨before, u, after, hr, hu, -, hsplit⟩
      · have hend : declarationEnd 0 pos (t :: (r ++ [])) = pos + (t :: r).length := by
          rw [List.append_nil, declarationEnd_eq, hsplit]
          rfl
        have hlength := h.length
        rw [loop_inl _ (by omega) (declarationsStep_piece (by simpa using h) ht hend seen),
          loop_inr (by omega) (declarationsStep_end (by omega) _), listOfTokens_eq, hsplit,
          ← note_append (hpiece r)]
        simp [ofPieces]
      · rw [listOfTokens_eq, hsplit]
        cases before with
        | nil => exact absurd (.inr ((List.cons.inj hr).1.trans (beq_iff_eq.1 hu))) ht
        | cons t' piece =>
          rw [List.cons_append] at hr
          obtain ⟨rfl, rfl⟩ := List.cons.inj hr
          have hend : declarationEnd 0 pos (t :: (piece ++ u :: after)) =
              pos + (t :: piece).length := by
            rw [declarationEnd_eq, hsplit]
            rfl
          have hat := (show At tokens pos ((t :: piece) ++ u :: after) from h).add.next
          simp only [List.length_append, List.length_cons] at hrounds hn
          rw [loop_inl _ (by omega) (declarationsStep_piece h ht hend seen),
            ih after.length (by omega) hat (by omega) _ rfl, ← note_append (hpiece piece)]
          rfl

end Loop

theorem declarations_eq (tokens : List Token) :
    declarations tokens = .ok (Declaration.listOfTokens tokens) := by
  simpa [declarations] using declarations_loop (.start tokens) (Nat.lt_succ_self _) ([], [])

end WebStyle.Cursor
