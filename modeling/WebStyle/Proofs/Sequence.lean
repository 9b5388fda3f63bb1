import Mathlib.Data.List.Forall2
import Mathlib.Data.List.Infix
import Mathlib.Data.List.Nodup
import Mathlib.Data.List.Pairwise
import Mathlib.Data.List.TakeWhile
import WebStyle.Sequence
/-!
What the operations on sequences leave of a sequence.
-/
set_option autoImplicit false

namespace WebStyle

variable {α β : Type}

/-- Nothing is cut off where neither end satisfies the predicate. -/
theorem trimBy_eq_self {p : α → Bool} {l : List α} (hhead : ∀ x ∈ l.head?, p x = false)
    (hlast : ∀ x ∈ l.getLast?, p x = false) : trimBy p l = l := by
  have hdrop : ∀ l : List α, (∀ x ∈ l.head?, p x = false) → l.dropWhile p = l := by
    intro l hl
    cases l with
    | nil => rfl
    | cons x l => exact List.dropWhile_cons_of_neg (by simp [hl x rfl])
  rw [trimBy, hdrop l hhead, hdrop l.reverse (by rwa [List.head?_reverse]), List.reverse_reverse]

theorem trimBy_eq_nil_iff {p : α → Bool} {l : List α} : trimBy p l = [] ↔ ∀ x ∈ l, p x := by
  rw [trimBy, List.reverse_eq_nil_iff, List.dropWhile_eq_nil_iff]
  simp only [List.mem_reverse]
  refine ⟨fun h => List.dropWhile_eq_nil_iff.1 ?_, fun h x hx =>
    h x ((List.dropWhile_sublist p).subset hx)⟩
  by_contra hne
  exact absurd (h _ (List.head_mem hne)) (by simp [List.head_dropWhile_not p hne])

theorem mem_of_mem_trimBy {p : α → Bool} {l : List α} {x : α} (h : x ∈ trimBy p l) : x ∈ l := by
  have hback := (List.dropWhile_sublist p).subset (List.mem_reverse.1 h)
  exact (List.dropWhile_sublist p).subset (List.mem_reverse.1 hback)

theorem mem_trimBy {p : α → Bool} {l : List α} {x : α} (h : x ∈ l) (hx : p x = false) :
    x ∈ trimBy p l := by
  have hdrop : ∀ {l : List α}, x ∈ l → x ∈ l.dropWhile p := by
    intro l h
    rw [← List.takeWhile_append_dropWhile (p := p) (l := l)] at h
    refine (List.mem_append.1 h).resolve_left fun htake => ?_
    simp [List.mem_takeWhile_imp htake] at hx
  exact List.mem_reverse.2 (hdrop (List.mem_reverse.2 (hdrop h)))

theorem mem_of_splitAtClose? {opens closes : α → Bool} {depth : Nat} {l : List α}
    {p : List α × List α} (h : splitAtClose? opens closes depth l = some p) {x : α}
    (hx : x ∈ p.1 ∨ x ∈ p.2) : x ∈ l := by
  induction l generalizing depth p with
  | nil => simp [splitAtClose?] at h
  | cons y l ih =>
    have hmap : ∀ {d : Nat}, (splitAtClose? opens closes d l).map
        (fun p => (y :: p.1, p.2)) = some p → x ∈ y :: l := by
      intro d h
      obtain ⟨q, hq, rfl⟩ := Option.map_eq_some_iff.1 h
      rcases hx with hx | hx
      · rcases List.mem_cons.1 hx with rfl | hx
        · exact List.mem_cons_self
        · exact List.mem_cons_of_mem y (ih hq (.inl hx))
      · exact List.mem_cons_of_mem y (ih hq (.inr hx))
    simp only [splitAtClose?] at h
    split at h
    · split at h
      · obtain rfl := Option.some.inj h
        exact List.mem_cons_of_mem y (hx.resolve_left List.not_mem_nil)
      · exact hmap h
    · exact hmap h

theorem splitAtClose?_suffix {opens closes : α → Bool} {depth : Nat} {l : List α}
    {p : List α × List α} (h : splitAtClose? opens closes depth l = some p) : p.2 <:+ l := by
  induction l generalizing depth p with
  | nil => simp [splitAtClose?] at h
  | cons x xs ih =>
    simp only [splitAtClose?] at h
    split at h
    · split at h
      · exact Option.some.inj h ▸ List.suffix_cons x xs
      · obtain ⟨q, hq, rfl⟩ := Option.map_eq_some_iff.1 h
        exact (ih hq).trans (List.suffix_cons x xs)
    · obtain ⟨q, hq, rfl⟩ := Option.map_eq_some_iff.1 h
      exact (ih hq).trans (List.suffix_cons x xs)

/-- An end that was found is found whatever follows. -/
theorem splitAtClose?_append {opens closes : α → Bool} {depth : Nat} {l : List α}
    {p : List α × List α} (h : splitAtClose? opens closes depth l = some p) (more : List α) :
    splitAtClose? opens closes depth (l ++ more) = some (p.1, p.2 ++ more) := by
  induction l generalizing depth p with
  | nil => simp [splitAtClose?] at h
  | cons x xs ih =>
    simp only [splitAtClose?, List.cons_append] at h ⊢
    split at h
    next hx =>
      rw [if_pos hx]
      split at h
      · obtain rfl := Option.some.inj h
        rfl
      · obtain ⟨q, hq, rfl⟩ := Option.map_eq_some_iff.1 h
        simp [ih hq]
    next hx =>
      rw [if_neg hx]
      obtain ⟨q, hq, rfl⟩ := Option.map_eq_some_iff.1 h
      simp [ih hq]

/-- No end is found where there is none, and none in what follows. -/
theorem splitAtClose?_append_of_eq_none {opens closes : α → Bool} {depth : Nat}
    {l more : List α} (h : splitAtClose? opens closes depth l = none)
    (hmore : ∀ x ∈ more, closes x = false) :
    splitAtClose? opens closes depth (l ++ more) = none := by
  induction l generalizing depth with
  | nil =>
    clear h
    induction more generalizing depth with
    | nil => rfl
    | cons x more ih =>
      simp only [List.nil_append] at ih ⊢
      simp only [splitAtClose?, hmore x List.mem_cons_self, Bool.false_eq_true, if_false]
      exact Option.map_eq_none_iff.2 (ih fun y hy => hmore y (List.mem_cons_of_mem x hy))
  | cons x l ih =>
    simp only [splitAtClose?, List.cons_append] at h ⊢
    split at h
    next hx =>
      rw [if_pos hx]
      split at h
      · cases h
      · exact Option.map_eq_none_iff.2 (ih (Option.map_eq_none_iff.1 h))
    next hx =>
      rw [if_neg hx]
      exact Option.map_eq_none_iff.2 (ih (Option.map_eq_none_iff.1 h))

/-- Whether a sequence closes as many groups as are open before it, and all that it opens itself,
but no other. -/
def balances (opens closes : α → Bool) : Nat → List α → Bool
  | depth, [] => depth == 0
  | depth, x :: l =>
    if closes x then
      match depth with
      | 0 => false
      | d + 1 => balances opens closes d l
    else balances opens closes (if opens x then depth + 1 else depth) l

/-- The end of a group is found behind what it holds. -/
theorem splitAtClose?_of_balances {opens closes : α → Bool} {depth : Nat} {l : List α} {y : α}
    (h : balances opens closes depth l) (hy : closes y) (rest : List α) :
    splitAtClose? opens closes depth (l ++ y :: rest) = some (l, rest) := by
  induction l generalizing depth with
  | nil =>
    obtain rfl : depth = 0 := by simpa [balances] using h
    simp [splitAtClose?, hy]
  | cons x l ih =>
    simp only [balances, List.cons_append, splitAtClose?] at h ⊢
    split at h
    next hx =>
      rw [if_pos hx]
      cases depth with
      | zero => cases h
      | succ d => simp [ih h]
    next hx =>
      rw [if_neg hx]
      simp [ih h]

theorem mem_of_splitOutside {opens closes separates : α → Bool} {depth : Nat} {l piece : List α}
    (h : piece ∈ splitOutside opens closes separates depth l) {x : α} (hx : x ∈ piece) : x ∈ l := by
  induction l generalizing depth piece with
  | nil =>
    obtain rfl := List.mem_singleton.1 h
    exact hx
  | cons y l ih =>
    simp only [splitOutside] at h
    split at h
    · rcases List.mem_cons.1 h with rfl | h
      · simp at hx
      · exact List.mem_cons_of_mem y (ih h hx)
    · split at h
      · obtain rfl := List.mem_singleton.1 h
        exact List.mem_singleton.1 hx ▸ List.mem_cons_self
      · rename_i first pieces heq
        have hmem : ∀ q ∈ first :: pieces, x ∈ q → x ∈ y :: l := fun q hq hxq =>
          List.mem_cons_of_mem y (ih (heq ▸ hq) hxq)
        rcases List.mem_cons.1 h with rfl | h
        · rcases List.mem_cons.1 hx with rfl | hx
          · exact List.mem_cons_self
          · exact hmem first List.mem_cons_self hx
        · exact hmem piece (List.mem_cons_of_mem first h) hx

theorem splitOutside_ne_nil (opens closes separates : α → Bool) (depth : Nat) (l : List α) :
    splitOutside opens closes separates depth l ≠ [] := by
  cases l with
  | nil => simp [splitOutside]
  | cons x l =>
    simp only [splitOutside]
    split
    · simp
    · split <;> simp

theorem splitOutside_cons {opens closes separates : α → Bool} {depth : Nat} {x : α}
    {l piece : List α}
    {pieces : List (List α)} (hx : separates x = false)
    (h : splitOutside opens closes separates
      (if opens x then depth + 1 else if closes x then depth - 1 else depth) l = piece :: pieces) :
    splitOutside opens closes separates depth (x :: l) = (x :: piece) :: pieces := by
  simp [splitOutside, hx, h]

/-- How deep in groups a sequence ends that starts at a depth. -/
def depthAfter (opens closes : α → Bool) : Nat → List α → Nat
  | depth, [] => depth
  | depth, x :: l =>
    depthAfter opens closes (if opens x then depth + 1 else if closes x then depth - 1 else depth) l

theorem depthAfter_append (opens closes : α → Bool) (depth : Nat) (l l' : List α) :
    depthAfter opens closes depth (l ++ l') =
      depthAfter opens closes (depthAfter opens closes depth l) l' := by
  induction l generalizing depth with
  | nil => rfl
  | cons x l ih => exact ih _

theorem depthAfter_of_forall {opens closes : α → Bool} {l : List α}
    (h : ∀ x ∈ l, opens x = false ∧ closes x = false) (depth : Nat) :
    depthAfter opens closes depth l = depth := by
  induction l with
  | nil => rfl
  | cons x l ih =>
    obtain ⟨ho, hc⟩ := h x List.mem_cons_self
    simpa [depthAfter, ho, hc] using ih fun y hy => h y (List.mem_cons_of_mem x hy)

theorem depthAfter_congr {opens closes opens' closes' : α → Bool} {l : List α}
    (h : ∀ x ∈ l, opens x = opens' x ∧ closes x = closes' x) (depth : Nat) :
    depthAfter opens closes depth l = depthAfter opens' closes' depth l := by
  induction l generalizing depth with
  | nil => rfl
  | cons x l ih =>
    obtain ⟨ho, hc⟩ := h x List.mem_cons_self
    simp only [depthAfter, ho, hc]
    exact ih (fun y hy => h y (List.mem_cons_of_mem x hy)) _

/-- Where no start of a sequence closes more groups than are open there, each opening and each
closing element counts. -/
theorem depthAfter_add_countP {opens closes : α → Bool} {depth : Nat} {l : List α}
    (hdisjoint : ∀ x, opens x → closes x = false)
    (h : ∀ l', l' <+: l → l'.countP closes ≤ depth + l'.countP opens) :
    depthAfter opens closes depth l + l.countP closes = depth + l.countP opens := by
  induction l generalizing depth with
  | nil => simp [depthAfter]
  | cons x l ih =>
    have hstep : ∀ l', l' <+: l → (x :: l').countP closes ≤ depth + (x :: l').countP opens :=
      fun l' hl' => h (x :: l') (List.prefix_cons_inj x |>.2 hl')
    have hx := hstep [] List.nil_prefix
    simp only [List.countP_cons, List.countP_nil] at hstep hx ⊢
    rw [depthAfter]
    cases hopen : opens x with
    | true =>
      have hclose := hdisjoint x hopen
      simp only [hopen, hclose, reduceIte, Bool.false_eq_true] at hstep ⊢
      have hrest : depthAfter opens closes (depth + 1) l + l.countP closes =
          depth + 1 + l.countP opens := ih fun l' hl' => by
        have := hstep l' hl'
        omega
      omega
    | false =>
      cases hclose : closes x with
      | true =>
        simp only [hopen, hclose, reduceIte, Bool.false_eq_true] at hstep hx ⊢
        have hrest : depthAfter opens closes (depth - 1) l + l.countP closes =
            depth - 1 + l.countP opens := ih fun l' hl' => by
          have := hstep l' hl'
          omega
        omega
      | false =>
        simp only [hopen, hclose, reduceIte, Bool.false_eq_true] at hstep ⊢
        exact ih hstep

/-- Where none separates, the first piece goes on. -/
theorem splitOutside_append_of_forall {opens closes separates : α → Bool} {depth : Nat}
    {l rest piece : List α} {pieces : List (List α)} (hl : ∀ x ∈ l, separates x = false)
    (h : splitOutside opens closes separates (depthAfter opens closes depth l) rest =
      piece :: pieces) :
    splitOutside opens closes separates depth (l ++ rest) = (l ++ piece) :: pieces := by
  induction l generalizing depth with
  | nil => exact h
  | cons x l ih =>
    exact splitOutside_cons (hl x List.mem_cons_self)
      (ih (fun y hy => hl y (List.mem_cons_of_mem x hy)) h)

/-- Inside a group nothing separates. -/
theorem splitOutside_append_inside {opens closes separates : α → Bool} {depth : Nat}
    {l rest piece : List α} {pieces : List (List α)}
    (hl : ∀ x ∈ l, opens x = false ∧ closes x = false)
    (h : splitOutside opens closes separates (depth + 1) rest = piece :: pieces) :
    splitOutside opens closes separates (depth + 1) (l ++ rest) = (l ++ piece) :: pieces := by
  induction l with
  | nil => exact h
  | cons x l ih =>
    obtain ⟨hopen, hclose⟩ := hl x List.mem_cons_self
    simp [splitOutside, hopen, hclose, ih fun y hy => hl y (List.mem_cons_of_mem x hy)]

/-- A group is not cut, whatever it holds. -/
theorem splitOutside_append_of_balances {opens closes separates : α → Bool} {depth : Nat}
    {l rest piece : List α} {pieces : List (List α)} {y : α}
    (hdisjoint : ∀ x, closes x → opens x = false) (hl : balances opens closes depth l)
    (hy : closes y) (h : splitOutside opens closes separates 0 rest = piece :: pieces) :
    splitOutside opens closes separates (depth + 1) (l ++ y :: rest) =
      (l ++ y :: piece) :: pieces := by
  induction l generalizing depth with
  | nil =>
    obtain rfl : depth = 0 := by simpa [balances] using hl
    simp [splitOutside, hy, hdisjoint y hy, h]
  | cons x l ih =>
    simp only [balances] at hl
    split at hl
    next hx =>
      cases depth with
      | zero => cases hl
      | succ d => simp [splitOutside, hx, hdisjoint x hx, ih hl]
    next hx =>
      cases hopen : opens x with
      | true =>
        rw [hopen, if_pos rfl] at hl
        simp [splitOutside, hopen, ih hl]
      | false =>
        rw [hopen, if_neg Bool.false_ne_true] at hl
        simp [splitOutside, hopen, hx, ih hl]

theorem splitOutside_of_forall {opens closes separates : α → Bool} {l : List α}
    (h : ∀ x ∈ l, separates x = false) (depth : Nat) :
    splitOutside opens closes separates depth l = [l] := by
  have hsplit : splitOutside opens closes separates depth (l ++ []) = [l ++ []] :=
    splitOutside_append_of_forall h rfl
  rwa [List.append_nil] at hsplit

theorem splitOutside_eq_singleton_nil {opens closes separates : α → Bool} {depth : Nat} {l : List α}
    (h : splitOutside opens closes separates depth l = [[]]) : l = [] := by
  cases l with
  | nil => rfl
  | cons x l =>
    simp only [splitOutside] at h
    split at h
    · simp [splitOutside_ne_nil] at h
    · split at h <;> simp at h

/-- Where a separator outside groups ends a sequence, what follows is split on its own. -/
theorem splitOutside_append {opens closes separates : α → Bool} {depth : Nat} {l : List α}
    {pieces : List (List α)} (hne : pieces ≠ [])
    (h : splitOutside opens closes separates depth l = pieces ++ [[]]) (rest : List α) :
    splitOutside opens closes separates depth (l ++ rest) =
      pieces ++ splitOutside opens closes separates 0 rest := by
  induction l generalizing depth pieces with
  | nil =>
    cases pieces with
    | nil => exact absurd rfl hne
    | cons piece pieces => simp [splitOutside] at h
  | cons x l ih =>
    simp only [List.cons_append, splitOutside] at h ⊢
    split at h
    · rename_i hsep
      rw [if_pos hsep]
      have hdepth : depth = 0 := by simpa using (Bool.and_eq_true_iff.1 hsep).2
      cases pieces with
      | nil => exact absurd rfl hne
      | cons piece pieces =>
        obtain ⟨rfl, hmore⟩ := List.cons.inj h
        cases pieces with
        | nil =>
          rw [splitOutside_eq_singleton_nil hmore, hdepth]
          rfl
        | cons piece pieces =>
          rw [ih (List.cons_ne_nil piece pieces) hmore]
          rfl
    · rename_i hsep
      rw [if_neg hsep]
      split at h
      · rename_i heq
        exact absurd heq (splitOutside_ne_nil _ _ _ _ _)
      · rename_i first more heq
        cases pieces with
        | nil => exact absurd rfl hne
        | cons piece pieces =>
          obtain ⟨rfl, rfl⟩ := List.cons.inj h
          rw [ih (List.cons_ne_nil first pieces) heq]
          rfl

/-- A separator outside groups cuts a sequence, and what follows it is split on its own. -/
theorem splitOutside_append_cons {opens closes separates : α → Bool} {depth : Nat} {l : List α}
    {x : α} (hplain : ∀ y, separates y → opens y = false ∧ closes y = false) (hx : separates x)
    (h : depthAfter opens closes depth l = 0) (rest : List α) :
    splitOutside opens closes separates depth (l ++ x :: rest) =
      splitOutside opens closes separates depth l ++
        splitOutside opens closes separates 0 rest := by
  induction l generalizing depth with
  | nil =>
    obtain rfl : depth = 0 := h
    simp [splitOutside, hx]
  | cons y l ih =>
    simp only [List.cons_append, splitOutside]
    split
    · rename_i hsep
      obtain ⟨hy, -⟩ := Bool.and_eq_true_iff.1 hsep
      have h : depthAfter opens closes depth l = 0 := by
        simpa [depthAfter, hplain y hy] using h
      rw [ih h, List.cons_append]
    · rw [ih h]
      cases hsplit : splitOutside opens closes separates
          (if opens y then depth + 1 else if closes y then depth - 1 else depth) l with
      | nil => exact absurd hsplit (splitOutside_ne_nil _ _ _ _ _)
      | cons piece pieces => rfl

/-- A sequence is one piece if no separator stands outside groups, and else its first piece is what
stands before the first of them. -/
theorem splitOutside_cases (opens closes separates : α → Bool) (depth : Nat) (l : List α) :
    splitOutside opens closes separates depth l = [l] ∨
      ∃ before x after, l = before ++ x :: after ∧ separates x ∧
        depthAfter opens closes depth before = 0 ∧
        splitOutside opens closes separates depth l =
          before :: splitOutside opens closes separates 0 after := by
  induction l generalizing depth with
  | nil => exact .inl rfl
  | cons y l ih =>
    by_cases hy : separates y ∧ depth = 0
    · obtain ⟨hy, rfl⟩ := hy
      exact .inr ⟨[], y, l, rfl, hy, rfl, by simp [splitOutside, hy]⟩
    · have hsep : (separates y && depth == 0) = false := by
        simpa using hy
      rcases ih (if opens y then depth + 1 else if closes y then depth - 1 else depth) with
        hsplit | ⟨before, x, after, rfl, hx, hdepth, hsplit⟩
      · exact .inl (by simp only [splitOutside, hsep, hsplit, Bool.false_eq_true, if_false])
      · refine .inr ⟨y :: before, x, after, rfl, hx, hdepth, ?_⟩
        simp only [splitOutside, hsep, hsplit, Bool.false_eq_true, if_false]

theorem eq_of_splitOutside_eq_singleton {opens closes separates : α → Bool} {depth : Nat}
    {l piece : List α} (h : splitOutside opens closes separates depth l = [piece]) : piece = l := by
  rcases splitOutside_cases opens closes separates depth l with hsplit | ⟨_, _, after, -, -, -, hsplit⟩
  · exact (List.cons.inj (hsplit.symm.trans h)).1.symm
  · exact absurd (List.cons.inj (hsplit.symm.trans h)).2 (splitOutside_ne_nil _ _ _ _ after)

/-- Lists that are joined, as the first and the others behind what joins them. -/
theorem intercalate_cons_eq (sep x : List α) (l : List (List α)) :
    List.intercalate sep (x :: l) = x ++ l.flatMap (sep ++ ·) := by
  induction l generalizing x with
  | nil => simp
  | cons y l ih => simp [ih]

/-- What `mapM` makes: something from each element, and nothing else. -/
theorem mapM_eq_some {g : α → Option β} {l : List α} {l' : List β} (h : l.mapM g = some l') :
    l'.length = l.length ∧ (∀ y ∈ l', ∃ x ∈ l, g x = some y) ∧ ∀ x ∈ l, ∃ y ∈ l', g x = some y := by
  induction l generalizing l' with
  | nil =>
    obtain rfl := Option.some.inj h
    exact ⟨rfl, by simp, by simp⟩
  | cons x l ih =>
    simp only [List.mapM_cons, Option.bind_eq_bind, Option.bind_eq_some_iff] at h
    obtain ⟨y, hy, more, hmore, h⟩ := h
    obtain rfl := Option.some.inj h
    obtain ⟨hlength, hstems, hmakes⟩ := ih hmore
    refine ⟨by simp [hlength], fun z hz => ?_, fun z hz => ?_⟩
    · rcases List.mem_cons.1 hz with rfl | hz
      · exact ⟨x, List.mem_cons_self, hy⟩
      · obtain ⟨w, hw, hz⟩ := hstems z hz
        exact ⟨w, List.mem_cons_of_mem x hw, hz⟩
    · rcases List.mem_cons.1 hz with rfl | hz
      · exact ⟨y, List.mem_cons_self, hy⟩
      · obtain ⟨w, hw, hz⟩ := hmakes z hz
        exact ⟨w, List.mem_cons_of_mem y hw, hz⟩

theorem mapM_map_eq {γ : Type} {f : α → β} {g : β → Option γ} {k : α → γ} {l : List α}
    (h : ∀ x ∈ l, g (f x) = some (k x)) : (l.map f).mapM g = some (l.map k) := by
  induction l with
  | nil => rfl
  | cons x l ih =>
    simp [h x List.mem_cons_self, ih fun y hy => h y (List.mem_cons_of_mem x hy)]

theorem mapM_map {f : α → β} {g : β → Option α} {l : List α} (h : ∀ x ∈ l, g (f x) = some x) :
    (l.map f).mapM g = some l := by
  simpa using mapM_map_eq h

/-- Where no key comes twice, looking up all keys gives all values. -/
theorem mapM_lookup {κ : Type} [BEq κ] [LawfulBEq κ] {l : List (κ × α)}
    (h : (l.map Prod.fst).Nodup) :
    (l.map Prod.fst).mapM (fun key => l.lookup key) = some (l.map Prod.snd) := by
  refine mapM_map_eq fun p hp => ?_
  obtain ⟨before, after, rfl⟩ := List.append_of_mem hp
  refine List.lookup_eq_some_iff.2 ⟨before, after, rfl, fun q hq => ?_⟩
  rw [List.map_append, List.nodup_append] at h
  have hne : p.1 ≠ q.1 := fun heq => h.2.2 q.1 (List.mem_map_of_mem hq) p.1
    (List.mem_map_of_mem List.mem_cons_self) heq.symm
  simpa using hne

/-- Where no element is made twice, an element stems from one place. -/
theorem eq_of_mem_of_nodup_flatMap {f : α → List β} {l : List α} (h : (l.flatMap f).Nodup) {x y : α}
    (hx : x ∈ l) (hy : y ∈ l) {z : β} (hzx : z ∈ f x) (hzy : z ∈ f y) : x = y := by
  by_contra hne
  have : Std.Symm (Function.onFun List.Disjoint f) := ⟨fun _ _ h _ hy hx => h hx hy⟩
  exact (List.nodup_flatMap.1 h).2.forall hx hy hne hzx hzy

/-- A list gets empty from which the first element is taken time and again, even where others that
rank lower are put in front each time. -/
theorem worklist_induction (rank : α → Nat) {motive : List α → Prop} (nil : motive [])
    (cons : ∀ x rest, (∀ new : List α, (∀ y ∈ new, rank y < rank x) → motive (new ++ rest)) →
      motive (x :: rest)) (l : List α) : motive l := by
  have hfront : ∀ n (new : List α), (∀ y ∈ new, rank y < n) → ∀ rest, motive rest →
      motive (new ++ rest) := by
    intro n
    induction n with
    | zero =>
      intro new hnew rest hrest
      obtain rfl := List.eq_nil_iff_forall_not_mem.2 fun y hy => Nat.not_lt_zero _ (hnew y hy)
      exact hrest
    | succ n ih =>
      intro new
      induction new with
      | nil => exact fun _ _ hrest => hrest
      | cons x new ihnew =>
        intro hnew rest hrest
        refine cons x (new ++ rest) fun more hmore => ih more (fun y hy => ?_) _ ?_
        · exact Nat.lt_of_lt_of_le (hmore y hy) (Nat.le_of_lt_succ (hnew x List.mem_cons_self))
        · exact ihnew (fun y hy => hnew y (List.mem_cons_of_mem x hy)) rest hrest
  induction l with
  | nil => exact nil
  | cons x l ih => exact cons x l fun new hnew => hfront (rank x) new hnew l ih

theorem filterMap_eq_filterMap_zip {γ : Type} {R : α → β → Prop} {l : List α} {l' : List β}
    (h : List.Forall₂ R l l') {f : α → Option γ} {g : α × β → Option γ}
    (hR : ∀ x y, R x y → f x = g (x, y)) : l.filterMap f = (l.zip l').filterMap g := by
  induction h with
  | nil => rfl
  | cons hxy _ ih =>
    rw [List.zip_cons_cons, List.filterMap_cons, List.filterMap_cons, hR _ _ hxy, ih]

theorem exists_of_forall₂ {R : α → β → Prop} {l : List α} {l' : List β} (h : List.Forall₂ R l l')
    {x : α} (hx : x ∈ l) : ∃ y ∈ l', R x y := by
  obtain ⟨i, hi, rfl⟩ := List.mem_iff_getElem.1 hx
  exact ⟨_, List.getElem_mem _, h.get hi (h.length_eq ▸ hi)⟩

/-- What is made from the second list is paired with what belongs to it in the first. -/
theorem forall₂_filterMap_zip {γ δ : Type} {R : α → β → Prop} {l : List α} {l' : List β}
    (h : List.Forall₂ R l l') (f : α → δ) (g : β → Option γ) :
    List.Forall₂ (fun (j : δ × γ) z => j.2 = z ∧ ∃ x y, R x y ∧ j.1 = f x)
      ((l.zip l').filterMap fun i => (g i.2).map (Prod.mk (f i.1))) (l'.filterMap g) := by
  induction h with
  | nil => exact .nil
  | @cons x y _ _ hxy _ ih =>
    rw [List.zip_cons_cons, List.filterMap_cons, List.filterMap_cons]
    cases hy : g y with
    | none => simpa only [hy, Option.map_none] using ih
    | some z =>
      simp only [Option.map_some]
      exact .cons ⟨rfl, x, y, hxy, rfl⟩ ih

end WebStyle
