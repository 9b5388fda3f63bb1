import Mathlib
import WebStyle.Style.Cascade
/-!
Which declaration the cascade settles on. The winners of each name and the claims of unexpanded
shorthands are two passes; together they pick, for each property, the one declaration of the highest
precedence among all that set it, whatever order the winners are gone through in.
-/
set_option autoImplicit false

namespace WebStyle

/-! ### The order of precedences -/

theorem Specificity.eq_of_cmp_eq {s t : Specificity} (h : Specificity.cmp s t = .eq) : s = t := by
  obtain ⟨a, b, c⟩ := s
  obtain ⟨a', b', c'⟩ := t
  simp only [cmp, Ordering.then_eq_eq, Nat.compare_eq_eq] at h
  obtain ⟨rfl, rfl, rfl⟩ := h
  rfl

instance : Std.TransOrd Specificity := inferInstanceAs <| Std.TransCmp <|
  compareLex (compareOn Specificity.ids) <|
    compareLex (compareOn Specificity.classes) (compareOn Specificity.types)

instance : Std.LawfulEqOrd Specificity where
  eq_of_compare := Specificity.eq_of_cmp_eq

namespace Precedence

instance : Std.TransCmp cmp := inferInstanceAs <| Std.TransCmp <|
  compareLex (compareOn band) <| compareLex (compareOn inline) <|
    compareLex (compareOn specificity) <| compareLex (compareOn order) (compareOn position)

instance : LT Precedence := ⟨fun p q => cmp p q = .lt⟩

theorem lt_def {p q : Precedence} : p < q ↔ cmp p q = .lt := Iff.rfl

theorem eq_of_cmp_eq {p q : Precedence} (h : cmp p q = .eq) : p = q := by
  obtain ⟨a, b, c, d, e⟩ := p
  obtain ⟨a', b', c', d', e'⟩ := q
  simp only [cmp, Ordering.then_eq_eq, Std.compare_eq_iff_eq] at h
  obtain ⟨rfl, rfl, rfl, rfl, rfl⟩ := h
  rfl

theorem le_refl (p : Precedence) : p.le p = true := by simp [le, Std.ReflCmp.compare_self]

theorem le_trans {p q r : Precedence} (h : p.le q = true) (h' : q.le r = true) : p.le r = true :=
  Std.TransCmp.isLE_trans h h'

theorem le_total (p q : Precedence) : p.le q = true ∨ q.le p = true := by
  simp only [le]
  rw [@Std.OrientedCmp.eq_swap _ cmp _ q p]
  cases cmp p q <;> simp [Ordering.isLE, Ordering.swap]

theorem le_antisymm {p q : Precedence} (h : p.le q = true) (h' : q.le p = true) : p = q :=
  eq_of_cmp_eq (Std.OrientedCmp.isLE_antisymm h h')

theorem lt_of_not_le {p q : Precedence} (h : ¬ p.le q = true) : q < p := by
  rw [lt_def, @Std.OrientedCmp.eq_swap _ cmp _ q p]
  revert h
  simp only [le]
  cases cmp p q <;> simp [Ordering.isLE, Ordering.swap]

theorem lt_of_le_of_ne {p q : Precedence} (h : p.le q = true) (hne : p ≠ q) : p < q := by
  refine lt_of_not_le fun h' => hne (le_antisymm h h')

theorem not_lt_of_le {p q : Precedence} (h : p.le q = true) : ¬ q < p := by
  intro h'
  rw [lt_def, @Std.OrientedCmp.eq_swap _ cmp _ q p] at h'
  revert h h'
  simp only [le]
  cases cmp p q <;> simp [Ordering.isLE, Ordering.swap]

theorem le_of_lt {p q : Precedence} (h : p < q) : p.le q = true := by
  rw [lt_def] at h
  simp [le, h, Ordering.isLE]

end Precedence

/-! ### What a declaration sets -/

namespace Candidate

/-- Whether a declaration sets a property: it names it, or names a shorthand that covers it. -/
def Sets (c : Candidate) (property : String) : Prop :=
  c.name = property ∨ ∃ s, Shorthand.ofName? c.name = some s ∧ property ∈ s.longhands

/-- What a declaration settles for a property that it sets. -/
def valueFor (c : Candidate) (property : String) : SpecifiedValue :=
  if c.name = property then c.declared else c.pending

/-- The declaration of the highest precedence among those that set a property. -/
structure IsStrongest (cs : List Candidate) (property : String) (c : Candidate) : Prop where
  mem : c ∈ cs
  sets : c.Sets property
  lt : ∀ c' ∈ cs, c'.Sets property → c' ≠ c → c'.precedence < c.precedence

theorem IsStrongest.eq_of_le {cs : List Candidate} {property : String} {c c' : Candidate}
    (h : IsStrongest cs property c) (hc' : c' ∈ cs) (hs : c'.Sets property)
    (hle : c.precedence.le c'.precedence = true) : c' = c := by
  by_contra hne
  exact Precedence.not_lt_of_le hle (h.lt c' hc' hs hne)

theorem IsStrongest.unique {cs : List Candidate} {property : String} {c c' : Candidate}
    (h : IsStrongest cs property c) (h' : IsStrongest cs property c') : c = c' := by
  by_contra hne
  exact Precedence.not_lt_of_le (Precedence.le_of_lt (h.lt c' h'.mem h'.sets (Ne.symm hne)))
    (h'.lt c h.mem h.sets hne)

theorem exists_isStrongest {cs : List Candidate} {property : String}
    (hd : cs.Pairwise fun c c' => c.precedence ≠ c'.precedence)
    (h : ∃ c ∈ cs, c.Sets property) : ∃ c, IsStrongest cs property c := by
  induction cs with
  | nil => simp at h
  | cons a cs ih =>
    obtain ⟨ha, hd⟩ := List.pairwise_cons.1 hd
    by_cases hcs : ∃ c ∈ cs, c.Sets property
    · obtain ⟨c, hc⟩ := ih hd hcs
      by_cases hle : a.Sets property ∧ ¬ a.precedence.le c.precedence = true
      · -- the new one is stronger than the strongest of the others
        have hlt := Precedence.lt_of_not_le hle.2
        refine ⟨a, by simp, hle.1, fun c' hc' hs hne => ?_⟩
        rcases List.mem_cons.1 hc' with rfl | hc'
        · exact absurd rfl hne
        · by_cases he : c' = c
          · exact he ▸ hlt
          · exact Std.TransCmp.lt_trans (hc.lt c' hc' hs he) hlt
      · refine ⟨c, List.mem_cons_of_mem _ hc.mem, hc.sets, fun c' hc' hs hne => ?_⟩
        rcases List.mem_cons.1 hc' with rfl | hc'
        · have hle' : c'.precedence.le c.precedence = true := by simpa [hs] using hle
          exact Precedence.lt_of_le_of_ne hle' (ha c hc.mem)
        · exact hc.lt c' hc' hs hne
    · obtain ⟨c, hc, hs⟩ := h
      have hca : c = a := by
        rcases List.mem_cons.1 hc with he | hc
        · exact he
        · exact absurd ⟨c, hc, hs⟩ hcs
      subst hca
      refine ⟨c, by simp, hs, fun c' hc' hs' hne => ?_⟩
      rcases List.mem_cons.1 hc' with rfl | hc'
      · exact absurd rfl hne
      · exact absurd ⟨c', hc', hs'⟩ hcs

end Candidate

namespace Cascade

/-! ### The winner of each name -/

theorem find?_accept (best : Table String Candidate) (c : Candidate) (name : String) :
    (accept best c).find? name =
      if c.name = name then
        if (best.find? name).all (·.precedence.le c.precedence) then some c else best.find? name
      else best.find? name := by
  unfold accept
  by_cases hn : c.name = name
  · subst hn
    cases hb : best.find? c.name with
    | none => simp [Table.find?_insert]
    | some old =>
      by_cases hle : old.precedence.le c.precedence = true <;> simp [hle, hb, Table.find?_insert]
  · cases hb : best.find? c.name with
    | none => simp [hn, Table.find?_insert]
    | some old =>
      by_cases hle : old.precedence.le c.precedence = true <;> simp [hle, hn, Table.find?_insert]

theorem nodup_keys_accept {best : Table String Candidate} (h : best.keys.Nodup) (c : Candidate) :
    (accept best c).keys.Nodup := by
  unfold accept
  split
  · exact Table.nodup_keys_insert h _ _
  · split
    · exact Table.nodup_keys_insert h _ _
    · exact h

theorem nodup_keys_winners (cs : List Candidate) : (winners cs).keys.Nodup := by
  induction cs using List.reverseRecOn with
  | nil => simp [winners, Table.keys, Table.empty]
  | append_singleton cs c ih =>
    rw [winners, List.foldl_append]
    exact nodup_keys_accept ih c

/-- A name without a winner has no declaration, and a winner is at least as strong as every other
declaration of its name. -/
theorem find?_winners (cs : List Candidate) (name : String) :
    ((winners cs).find? name = none ∧ ∀ c ∈ cs, c.name ≠ name) ∨
    ∃ c ∈ cs, (winners cs).find? name = some c ∧ c.name = name ∧
      ∀ c' ∈ cs, c'.name = name → c'.precedence.le c.precedence = true := by
  induction cs using List.reverseRecOn with
  | nil => simp [winners]
  | append_singleton cs c ih =>
    have hw : (winners (cs ++ [c])).find? name = (accept (winners cs) c).find? name := by
      rw [winners, List.foldl_append]; rfl
    rw [hw, find?_accept]
    by_cases hn : c.name = name
    · right
      simp only [hn, ↓reduceIte]
      rcases ih with ⟨hb, hnone⟩ | ⟨old, hold, hb, hname, hle⟩
      · refine ⟨c, by simp, by simp [hb], hn, fun c' hc' hn' => ?_⟩
        rcases List.mem_append.1 hc' with hc' | hc'
        · exact absurd hn' (hnone c' hc')
        · rw [List.mem_singleton.1 hc']; exact Precedence.le_refl _
      · by_cases hc : old.precedence.le c.precedence = true
        · refine ⟨c, by simp, by simp [hb, hc], hn, fun c' hc' hn' => ?_⟩
          rcases List.mem_append.1 hc' with hc' | hc'
          · exact Precedence.le_trans (hle c' hc' hn') hc
          · rw [List.mem_singleton.1 hc']; exact Precedence.le_refl _
        · refine ⟨old, by simp [hold], by simp [hb, hc], hname, fun c' hc' hn' => ?_⟩
          rcases List.mem_append.1 hc' with hc' | hc'
          · exact hle c' hc' hn'
          · rw [List.mem_singleton.1 hc']
            exact (Precedence.le_total old.precedence c.precedence).resolve_left hc
    · simp only [hn, ↓reduceIte]
      rcases ih with ⟨hb, hnone⟩ | ⟨old, hold, hb, hname, hle⟩
      · left
        refine ⟨hb, fun c' hc' => ?_⟩
        rcases List.mem_append.1 hc' with hc' | hc'
        · exact hnone c' hc'
        · rw [List.mem_singleton.1 hc']; exact hn
      · right
        refine ⟨old, by simp [hold], hb, hname, fun c' hc' hn' => ?_⟩
        rcases List.mem_append.1 hc' with hc' | hc'
        · exact hle c' hc' hn'
        · rw [List.mem_singleton.1 hc'] at hn'; exact absurd hn' hn

/-! ### The claims of shorthands -/

/-- Whether a shorthand is entitled to a longhand. -/
def Claims (best : Table String Candidate) (p : Shorthand × Candidate) (longhand : String) : Prop :=
  longhand ∈ p.1.longhands ∧ outranks best p.2 longhand = true

theorem find?_foldl_insert (c : Candidate) (names : List String) (t : Table String Candidate)
    (name : String) :
    (names.foldl (fun t n => t.insert n c) t).find? name =
      if name ∈ names then some c else t.find? name := by
  induction names generalizing t with
  | nil => simp
  | cons n ns ih =>
    rw [List.foldl_cons, ih, Table.find?_insert]
    by_cases hns : name ∈ ns
    · simp [hns]
    · by_cases hn : n = name
      · simp [hn]
      · have hn' : name ≠ n := fun e => hn e.symm
        simp [hns, hn, hn']

theorem find?_claim (best t : Table String Candidate) (p : Shorthand × Candidate)
    (longhand : String) [Decidable (Claims best p longhand)] :
    (claim best t p).find? longhand =
      if Claims best p longhand then some p.2 else t.find? longhand := by
  obtain ⟨s, c⟩ := p
  have hmem : longhand ∈ s.longhands.filter (outranks best c) ↔ Claims best (s, c) longhand :=
    List.mem_filter
  rw [claim, find?_foldl_insert]
  by_cases h : Claims best (s, c) longhand
  · rw [if_pos h, if_pos (hmem.2 h)]
  · rw [if_neg h, if_neg (mt hmem.1 h)]

/-- After shorthands in ascending order, a longhand that none is entitled to is free, and each other
one belongs to the strongest shorthand entitled to it. -/
theorem find?_foldl_claim (best : Table String Candidate) {l : List (Shorthand × Candidate)}
    (hl : l.Pairwise fun p q => p.2.precedence.le q.2.precedence = true) (longhand : String) :
    ((l.foldl (claim best) .empty).find? longhand = none ∧ ∀ p ∈ l, ¬ Claims best p longhand) ∨
    ∃ p ∈ l, (l.foldl (claim best) .empty).find? longhand = some p.2 ∧ Claims best p longhand ∧
      ∀ q ∈ l, Claims best q longhand → q.2.precedence.le p.2.precedence = true := by
  classical
  induction l using List.reverseRecOn with
  | nil => simp
  | append_singleton l p ih =>
    obtain ⟨hl, -, hp⟩ := List.pairwise_append.1 hl
    have hlp : ∀ q ∈ l, q.2.precedence.le p.2.precedence = true := fun q hq =>
      hp q hq p (by simp)
    rw [List.foldl_append, List.foldl_cons, List.foldl_nil, find?_claim]
    by_cases hc : Claims best p longhand
    · right
      refine ⟨p, by simp, by simp [hc], hc, fun q hq _ => ?_⟩
      rcases List.mem_append.1 hq with hq | hq
      · exact hlp q hq
      · rw [List.mem_singleton.1 hq]; exact Precedence.le_refl _
    · simp only [hc, ↓reduceIte]
      rcases ih hl with ⟨hnone, hfree⟩ | ⟨q, hq, hsome, hcq, hle⟩
      · left
        refine ⟨hnone, fun q hq => ?_⟩
        rcases List.mem_append.1 hq with hq | hq
        · exact hfree q hq
        · rw [List.mem_singleton.1 hq]; exact hc
      · right
        refine ⟨q, by simp [hq], hsome, hcq, fun r hr hcr => ?_⟩
        rcases List.mem_append.1 hr with hr | hr
        · exact hle r hr hcr
        · rw [List.mem_singleton.1 hr] at hcr; exact absurd hcr hc

theorem mem_shorthands {best : Table String Candidate} (hb : best.keys.Nodup) {s : Shorthand}
    {c : Candidate} :
    (s, c) ∈ shorthands best ↔
      ∃ name, best.find? name = some c ∧ Shorthand.ofName? name = some s := by
  simp only [shorthands, List.mem_mergeSort, List.mem_filterMap, Option.map_eq_some_iff,
    Prod.mk.injEq, Prod.exists, Table.find?_eq_some_iff hb]
  constructor
  · rintro ⟨name, c', hmem, s', hs, rfl, rfl⟩
    exact ⟨name, hmem, hs⟩
  · rintro ⟨name, hmem, hs⟩
    exact ⟨name, c, hmem, s, hs, rfl, rfl⟩

theorem pairwise_shorthands (best : Table String Candidate) :
    (shorthands best).Pairwise fun p q => p.2.precedence.le q.2.precedence = true := by
  refine @List.pairwise_mergeSort (Shorthand × Candidate)
    (fun p q => p.2.precedence.le q.2.precedence) (fun a b c => Precedence.le_trans)
    (fun a b => ?_) _
  rcases Precedence.le_total a.2.precedence b.2.precedence with h | h <;> simp [h]

/-! ### The settled values -/

theorem ofName?_longhand (s : Shorthand) : ∀ n ∈ s.longhands, Shorthand.ofName? n = none := by
  cases s <;> decide

theorem find?_filter_map {α β : Type} (f : α → β) (keep : String → Bool) (t : Table String α)
    (name : String) :
    (Table.mk ((t.entries.filter fun p => keep p.1).map fun p => (p.1, f p.2))).find? name =
      if keep name then (t.find? name).map f else none := by
  obtain ⟨l⟩ := t
  simp only [Table.find?]
  induction l with
  | nil => simp
  | cons p l ih =>
    obtain ⟨a, c⟩ := p
    by_cases ha : a = name
    · subst ha
      by_cases hk : keep a = true
      · simp [hk]
      · simpa [hk] using ih
    · by_cases hk : keep a = true
      · simpa [hk, ha] using ih
      · simpa [hk, ha] using ih

theorem nodup_keys_claims (best : Table String Candidate) : (claims best).keys.Nodup := by
  have hinsert : ∀ (c : Candidate) (names : List String) (t : Table String Candidate),
      t.keys.Nodup → (names.foldl (fun t n => t.insert n c) t).keys.Nodup := by
    intro c names
    induction names with
    | nil => exact fun _ h => h
    | cons n names ih => exact fun t h => ih _ (Table.nodup_keys_insert h n c)
  have hclaims : ∀ (l : List (Shorthand × Candidate)) (t : Table String Candidate),
      t.keys.Nodup → (l.foldl (claim best) t).keys.Nodup := by
    intro l
    induction l with
    | nil => exact fun _ h => h
    | cons p l ih => exact fun t h => ih _ (hinsert _ _ t h)
  exact hclaims _ _ List.nodup_nil

/-- No property is settled twice. -/
theorem nodup_keys_settle {best : Table String Candidate} (hb : best.keys.Nodup) :
    (settle best).keys.Nodup := by
  have hown : ∀ name ∈ (best.entries.filter fun p =>
      (Shorthand.ofName? p.1).isNone && !(claims best).contains p.1).map Prod.fst,
      name ∉ (claims best).keys := by
    intro name hname
    obtain ⟨p, hp, rfl⟩ := List.mem_map.1 hname
    have hfree := (List.mem_filter.1 hp).2
    rw [← Table.find?_eq_none_iff]
    simpa [Table.contains] using (Bool.and_eq_true_iff.1 hfree).2
  have hkeys : (settle best).keys = (best.entries.filter fun p =>
      (Shorthand.ofName? p.1).isNone && !(claims best).contains p.1).map Prod.fst ++
        (claims best).keys := by
    simp [settle, Table.keys, Function.comp_def]
  rw [hkeys]
  refine List.nodup_append.2 ⟨hb.sublist (List.filter_sublist.map _), nodup_keys_claims best, ?_⟩
  rintro name hname _ hclaimed rfl
  exact hown name hname hclaimed

theorem find?_settle (best : Table String Candidate) (name : String) :
    (settle best).find? name =
      if Shorthand.ofName? name = none ∧ (claims best).find? name = none then
        (best.find? name).map Candidate.declared
      else ((claims best).find? name).map Candidate.pending := by
  have happ : ∀ l₁ l₂ : List (String × SpecifiedValue),
      (Table.mk (l₁ ++ l₂)).find? name =
        ((Table.mk l₁).find? name).or ((Table.mk l₂).find? name) := by
    intro l₁ l₂
    simp [Table.find?, List.find?_append, Option.map_or]
  have hclaims := find?_filter_map Candidate.pending (fun _ => true) (claims best) name
  have hown := find?_filter_map Candidate.declared
    (fun n => (Shorthand.ofName? n).isNone && !(claims best).contains n) best name
  rw [List.filter_eq_self.2 fun _ _ => rfl, if_pos rfl] at hclaims
  change (Table.mk (_ ++ (claims best).entries.map fun p => (p.1, p.2.pending))).find? name = _
  rw [happ, hclaims]
  refine (congrArg (Option.or · _) hown).trans ?_
  cases Shorthand.ofName? name <;> cases hc : (claims best).find? name <;>
    simp [hc, Table.contains]

section Settled

variable {cs : List Candidate} {best : Table String Candidate}
  (hb : best.entries.Perm (winners cs).entries)

include hb

theorem nodup_keys_of_perm : best.keys.Nodup :=
  (hb.map Prod.fst).nodup_iff.2 (nodup_keys_winners cs)

/-- A property without a winner of its own has no declaration that names it. -/
theorem find?_of_perm (name : String) :
    (best.find? name = none ∧ ∀ c ∈ cs, c.name ≠ name) ∨
    ∃ c ∈ cs, best.find? name = some c ∧ c.name = name ∧
      ∀ c' ∈ cs, c'.name = name → c'.precedence.le c.precedence = true := by
  rw [Table.find?_perm hb (nodup_keys_of_perm hb)]
  exact find?_winners cs name

/-- Whoever is entitled to a longhand is a declaration that sets it. -/
theorem sets_of_claims {p : Shorthand × Candidate} {longhand : String}
    (hp : p ∈ shorthands best) (hc : Claims best p longhand) :
    p.2 ∈ cs ∧ p.2.Sets longhand ∧ Shorthand.ofName? p.2.name = some p.1 := by
  obtain ⟨s, c⟩ := p
  obtain ⟨name, hfind, hs⟩ := (mem_shorthands (nodup_keys_of_perm hb)).1 hp
  rcases find?_of_perm hb name with ⟨hnone, -⟩ | ⟨c', hc', hsome, hname, -⟩
  · rw [hnone] at hfind; exact absurd hfind (by simp)
  · rw [hsome, Option.some.injEq] at hfind
    subst hfind hname
    exact ⟨hc', .inr ⟨s, hs, hc.1⟩, hs⟩

/-- A longhand that no weaker claim can reach stays free. -/
theorem find?_claims_eq_none {property : String}
    (h : ∀ p ∈ shorthands best, p.2 ∈ cs → p.2.Sets property →
      Shorthand.ofName? p.2.name = some p.1 → ¬ Claims best p property) :
    (claims best).find? property = none := by
  rcases find?_foldl_claim best (pairwise_shorthands best) property with
    ⟨hnone, -⟩ | ⟨p, hp, -, hc, -⟩
  · exact hnone
  · obtain ⟨hmem, hsets, hsh⟩ := sets_of_claims hb hp hc
    exact absurd hc (h p hp hmem hsets hsh)

theorem find?_settle_of_not_sets {property : String} (h : ∀ c ∈ cs, ¬ c.Sets property) :
    (settle best).find? property = none := by
  have hown : best.find? property = none := by
    rcases find?_of_perm hb property with ⟨hnone, -⟩ | ⟨c, hc, -, hname, -⟩
    · exact hnone
    · exact absurd (.inl hname) (h c hc)
  have hclaims : (claims best).find? property = none :=
    find?_claims_eq_none hb fun p _ hmem hsets _ => absurd hsets (h p.2 hmem)
  rw [find?_settle, hown, hclaims]
  simp

/-- A declaration of the property's own name wins over all shorthands that are weaker. -/
theorem find?_settle_of_name {property : String} {c : Candidate}
    (hs : Candidate.IsStrongest cs property c) (hname : c.name = property)
    (hlong : Shorthand.ofName? property = none) :
    (settle best).find? property = some c.declared := by
  have hown : best.find? property = some c := by
    rcases find?_of_perm hb property with ⟨-, hnone⟩ | ⟨c', hc', hsome, hname', hle⟩
    · exact absurd hname (hnone c hs.mem)
    · rw [hsome, hs.eq_of_le hc' (.inl hname') (hle c hs.mem hname)]
  have hclaims : (claims best).find? property = none := by
    refine find?_claims_eq_none hb fun p _ hmem hsets hsh hc => ?_
    have hle : c.precedence.le p.2.precedence = true := by
      have := hc.2
      rwa [outranks, hown] at this
    rw [hs.eq_of_le hmem hsets hle, hname, hlong] at hsh
    exact absurd hsh (by simp)
  rw [find?_settle, hown, hclaims]
  simp [hlong]

/-- A shorthand that is stronger than all else claims its longhands. -/
theorem find?_settle_of_longhand {property : String} {c : Candidate} {s : Shorthand}
    (hs : Candidate.IsStrongest cs property c) (hsh : Shorthand.ofName? c.name = some s)
    (hmem : property ∈ s.longhands) : (settle best).find? property = some c.pending := by
  have hfind : best.find? c.name = some c := by
    rcases find?_of_perm hb c.name with ⟨-, hnone⟩ | ⟨c', hc', hsome, hname', hle⟩
    · exact absurd rfl (hnone c hs.mem)
    · rw [hsome, hs.eq_of_le hc' (.inr ⟨s, hname' ▸ hsh, hmem⟩) (hle c hs.mem rfl)]
  have hentry : (s, c) ∈ shorthands best :=
    (mem_shorthands (nodup_keys_of_perm hb)).2 ⟨c.name, hfind, hsh⟩
  have hclaim : Claims best (s, c) property := by
    refine ⟨hmem, ?_⟩
    rcases find?_of_perm hb property with ⟨hnone, -⟩ | ⟨c', hc', hsome, hname', -⟩
    · simp [outranks, hnone]
    · rw [outranks, hsome, Option.all_some]
      by_cases he : c' = c
      · rw [he]; exact Precedence.le_refl _
      · exact Precedence.le_of_lt (hs.lt c' hc' (.inl hname') he)
  have hclaims : (claims best).find? property = some c := by
    rcases find?_foldl_claim best (pairwise_shorthands best) property with
      ⟨-, hfree⟩ | ⟨p, hp, hsome, hc, hle⟩
    · exact absurd hclaim (hfree _ hentry)
    · obtain ⟨hpcs, hsets, -⟩ := sets_of_claims hb hp hc
      rw [claims, hsome, hs.eq_of_le hpcs hsets (hle _ hentry hclaim)]
  rw [find?_settle, hclaims]
  simp

theorem find?_settle_of_isStrongest {property : String} {c : Candidate}
    (hs : Candidate.IsStrongest cs property c) (hlong : Shorthand.ofName? property = none) :
    (settle best).find? property = some (c.valueFor property) := by
  by_cases hname : c.name = property
  · rw [find?_settle_of_name hb hs hname hlong, Candidate.valueFor, if_pos hname]
  · obtain ⟨s, hsh, hmem⟩ := hs.sets.resolve_left hname
    rw [find?_settle_of_longhand hb hs hsh hmem, Candidate.valueFor, if_neg hname]

theorem find?_settle_of_shorthand {property : String}
    (h : Shorthand.ofName? property ≠ none) : (settle best).find? property = none := by
  have hclaims : (claims best).find? property = none :=
    find?_claims_eq_none hb fun p _ _ _ _ hc => h (ofName?_longhand p.1 property hc.1)
  rw [find?_settle, hclaims]
  simp [h]

/-- The settled values, whatever order the winners come in. -/
theorem find?_settle_eq_some_iff (hd : cs.Pairwise fun c c' => c.precedence ≠ c'.precedence)
    (property : String) (v : SpecifiedValue) :
    (settle best).find? property = some v ↔
      Shorthand.ofName? property = none ∧
        ∃ c, Candidate.IsStrongest cs property c ∧ v = c.valueFor property := by
  by_cases hlong : Shorthand.ofName? property = none
  · by_cases hsets : ∃ c ∈ cs, c.Sets property
    · obtain ⟨c, hc⟩ := Candidate.exists_isStrongest hd hsets
      rw [find?_settle_of_isStrongest hb hc hlong]
      constructor
      · intro h
        exact ⟨hlong, c, hc, (Option.some.inj h).symm⟩
      · rintro ⟨-, c', hc', rfl⟩
        rw [hc.unique hc']
    · rw [find?_settle_of_not_sets hb fun c hc hs => hsets ⟨c, hc, hs⟩]
      constructor
      · simp
      · rintro ⟨-, c, hc, -⟩
        exact absurd ⟨c, hc.mem, hc.sets⟩ hsets
  · rw [find?_settle_of_shorthand hb hlong]
    simp [hlong]

end Settled

/-! ### No two declarations have one precedence -/

theorem pairwise_blockCandidates (precedence : Bool → Nat → Precedence)
    (hp : ∀ b i, (precedence b i).position = i) (b : DeclarationBlock) :
    (blockCandidates precedence b).Pairwise fun c c' => c.precedence ≠ c'.precedence := by
  have hidx : (b.declarations.zipIdx).Pairwise fun x y => x.2 < y.2 := by
    rw [← List.pairwise_map (R := (· < ·)), List.zipIdx_map_snd]
    exact List.pairwise_lt_range'
  rw [blockCandidates, List.pairwise_map]
  refine hidx.imp fun {x y} h he => ?_
  have := congrArg Precedence.position he
  simp only [hp] at this
  omega

theorem precedence_blockCandidates {precedence : Bool → Nat → Precedence} {b : DeclarationBlock}
    {c : Candidate} (hc : c ∈ blockCandidates precedence b) :
    ∃ important i, c.precedence = precedence important i := by
  obtain ⟨⟨d, i⟩, -, rfl⟩ := List.mem_map.1 hc
  exact ⟨d.important, i, rfl⟩

theorem pairwise_order_matchedRules (m : ObjectModel) (env : MediaEnvironment)
    (sheets : List SheetId) (d : Dom) (n : NodeId) (pseudo : Option PseudoElement) :
    (matchedRules m env sheets d n pseudo).Pairwise fun r r' => r.order < r'.order := by
  have hidx : ((m.appliedRules env sheets).zipIdx 1).Pairwise fun x y => x.2 < y.2 := by
    rw [← List.pairwise_map (R := (· < ·)), List.zipIdx_map_snd]
    exact List.pairwise_lt_range'
  rw [matchedRules, List.pairwise_filterMap]
  refine hidx.imp fun {x y} h r hr r' hr' => ?_
  obtain ⟨s, -, rfl⟩ := Option.map_eq_some_iff.1 hr
  obtain ⟨s', -, rfl⟩ := Option.map_eq_some_iff.1 hr'
  exact h

theorem pairwise_candidates {matched : List MatchedRule}
    (h : matched.Pairwise fun r r' => r.order < r'.order) (inline : Option DeclarationBlock) :
    (candidates matched inline).Pairwise fun c c' => c.precedence ≠ c'.precedence := by
  refine List.pairwise_append.2 ⟨List.pairwise_flatMap.2 ⟨fun r _ => ?_, ?_⟩, ?_, ?_⟩
  · exact pairwise_blockCandidates _ (fun _ _ => rfl) _
  · -- two rules differ in their order
    refine h.imp fun {r r'} hlt c hc c' hc' he => ?_
    obtain ⟨_, _, hp⟩ := precedence_blockCandidates hc
    obtain ⟨_, _, hp'⟩ := precedence_blockCandidates hc'
    have := congrArg Precedence.order (hp ▸ hp' ▸ he)
    exact Nat.ne_of_lt hlt this
  · cases inline with
    | none => simp
    | some b =>
      rw [Option.toList_some, List.flatMap_singleton]
      exact pairwise_blockCandidates _ (fun _ _ => rfl) b
  · -- only the `style` attribute is inline
    intro c hc c' hc' he
    obtain ⟨r, -, hc⟩ := List.mem_flatMap.1 hc
    obtain ⟨b, -, hc'⟩ := List.mem_flatMap.1 hc'
    obtain ⟨_, _, hp⟩ := precedence_blockCandidates hc
    obtain ⟨_, _, hp'⟩ := precedence_blockCandidates hc'
    have := congrArg Precedence.inline (hp ▸ hp' ▸ he)
    exact absurd this (by simp)

end Cascade

theorem nodup_keys_cascade (matched : List MatchedRule) (inline : Option DeclarationBlock) :
    (cascade matched inline).keys.Nodup :=
  Cascade.nodup_keys_settle (Cascade.nodup_keys_winners _)

/-- The cascade settles a property exactly if some declaration sets it and it is no shorthand, and
then by the declaration of the highest precedence among all that set it. The order in which the
winners of the names are gone through makes no difference. -/
theorem find?_cascade_iff (m : ObjectModel) (env : MediaEnvironment) (sheets : List SheetId)
    (d : Dom) (n : NodeId) (pseudo : Option PseudoElement) (inline : Option DeclarationBlock) :
    let matched := matchedRules m env sheets d n pseudo
    let cs := Cascade.candidates matched inline
    (∀ property v, (cascade matched inline).find? property = some v ↔
      Shorthand.ofName? property = none ∧
        ∃ c, Candidate.IsStrongest cs property c ∧ v = c.valueFor property) ∧
    (∀ property, (cascade matched inline).contains property = true ↔
      Shorthand.ofName? property = none ∧ ∃ c ∈ cs, c.Sets property) ∧
    ∀ order : List (String × Candidate), order.Perm (Cascade.winners cs).entries →
      ∀ property, (Cascade.settle ⟨order⟩).find? property =
        (cascade matched inline).find? property := by
  intro matched cs
  have hd : cs.Pairwise fun c c' => c.precedence ≠ c'.precedence :=
    Cascade.pairwise_candidates (Cascade.pairwise_order_matchedRules m env sheets d n pseudo) inline
  have hvalue := fun property v =>
    Cascade.find?_settle_eq_some_iff (List.Perm.refl (Cascade.winners cs).entries) hd property v
  refine ⟨hvalue, fun property => ?_, fun order horder property => ?_⟩
  · rw [Table.contains, Option.isSome_iff_exists]
    constructor
    · rintro ⟨v, hv⟩
      obtain ⟨hlong, c, hc, -⟩ := (hvalue property v).1 hv
      exact ⟨hlong, c, hc.mem, hc.sets⟩
    · rintro ⟨hlong, hsets⟩
      obtain ⟨c, hc⟩ := Candidate.exists_isStrongest hd hsets
      exact ⟨_, (hvalue property _).2 ⟨hlong, c, hc, rfl⟩⟩
  · refine Option.ext fun v => ?_
    have horder' : (Table.mk order).entries.Perm (Cascade.winners cs).entries := horder
    exact (Cascade.find?_settle_eq_some_iff horder' hd property v).trans (hvalue property v).symm

/-- A border with a custom property, a width with another one, and one side's color. -/
def layeredBorder : DeclarationBlock :=
  ⟨[⟨"border-top-color", "red", true⟩, ⟨"border", "var(--b)", false⟩,
    ⟨"border-width", "var(--w)", false⟩]⟩

theorem find?_cascade_layeredBorder :
    let matched := matchedRules (.empty .full) (.screen 800.0 600.0) [] .empty ⟨0, 0⟩ none
    let entries := (Cascade.winners (Cascade.candidates matched (some layeredBorder))).entries
    entries.reverse.Perm entries ∧
      ["border-top-color", "border-top-width", "border-top-style", "border"].map
          (Cascade.settle ⟨entries.reverse⟩).find? =
        [some (.declared "red"), some (.pending "border-width" "var(--w)"),
          some (.pending "border" "var(--b)"), none] := by
  intro matched entries
  have horder := (find?_cascade_iff (.empty .full) (.screen 800.0 600.0) [] .empty ⟨0, 0⟩ none
    (some layeredBorder)).2.2 entries.reverse (List.reverse_perm _)
  refine ⟨List.reverse_perm _, ?_⟩
  rw [List.map_congr_left fun property _ => horder property]
  change [_, _, _, _].map (cascade [] (some layeredBorder)).find? = _
  cbv

end WebStyle
