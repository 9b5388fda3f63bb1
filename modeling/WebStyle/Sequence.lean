/-!
Operations on sequences that the readers of this library share: cutting off both ends, splitting at
separators outside groups, and finding the end of a group.
-/
set_option autoImplicit false

namespace WebStyle

/-- Drops the elements at both ends that satisfy `p`. -/
def trimBy {α : Type} (p : α → Bool) (l : List α) : List α :=
  ((l.dropWhile p).reverse.dropWhile p).reverse

/-- Splits at the separators that stand outside all groups. A closing element without an opening
one is an element like any other. -/
def splitOutside {α : Type} (opens closes separates : α → Bool) : Nat → List α → List (List α)
  | _, [] => [[]]
  | depth, x :: xs =>
    if separates x && depth == 0 then [] :: splitOutside opens closes separates depth xs
    else
      let depth := if opens x then depth + 1 else if closes x then depth - 1 else depth
      match splitOutside opens closes separates depth xs with
      | [] => [[x]]
      | piece :: pieces => (x :: piece) :: pieces

/-- The elements before the one that closes a group, whose opening one was already taken, and those
after it. -/
def splitAtClose? {α : Type} (opens closes : α → Bool) : Nat → List α → Option (List α × List α)
  | _, [] => none
  | depth, x :: xs =>
    if closes x then
      match depth with
      | 0 => some ([], xs)
      | d + 1 => (splitAtClose? opens closes d xs).map fun (inside, after) => (x :: inside, after)
    else
      let depth := if opens x then depth + 1 else depth
      (splitAtClose? opens closes depth xs).map fun (inside, after) => (x :: inside, after)

theorem splitAtClose?_length {α : Type} {opens closes : α → Bool} {depth : Nat} {l : List α}
    {p : List α × List α} (h : splitAtClose? opens closes depth l = some p) :
    p.1.length + p.2.length < l.length := by
  induction l generalizing depth p with
  | nil => simp [splitAtClose?] at h
  | cons x xs ih =>
    simp only [splitAtClose?] at h
    split at h
    · split at h
      · simp_all; grind
      · obtain ⟨q, hq, rfl⟩ := Option.map_eq_some_iff.1 h
        have := ih hq
        simp only [List.length_cons]; omega
    · obtain ⟨q, hq, rfl⟩ := Option.map_eq_some_iff.1 h
      have := ih hq
      simp only [List.length_cons]; omega

theorem splitAtClose?_length_lt {α : Type} {opens closes : α → Bool} {depth : Nat} {l : List α}
    {p : List α × List α} (h : splitAtClose? opens closes depth l = some p) :
    p.2.length < l.length := by
  have := splitAtClose?_length h
  omega

end WebStyle
