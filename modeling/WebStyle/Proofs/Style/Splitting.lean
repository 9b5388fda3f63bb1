import WebStyle.Proofs.Slots.History
import WebStyle.Proofs.Style.Leading
import WebStyle.Proofs.Style.Routes
/-!
Dividing a style rule into two. Within a block declarations displace each other as it is read, while
between rules the cascade picks the strongest; both come to the same, however the declarations are
divided among rules that follow each other.
-/
set_option autoImplicit false

namespace WebStyle

/-! ### Declarations of two blocks -/

namespace Declaration

variable {property : String} {ds es : List Declaration}

/-- The later list is taken into account by its leading declaration alone. -/
theorem leading?_append : leading? property (ds ++ es) =
    (leading? property es).elim (leading? property ds)
      (prefer property (leading? property ds)) := by
  induction es using List.reverseRecOn with
  | nil => simp [leading?]
  | append_singleton es x ih =>
    rw [← List.append_assoc, leading?_concat, leading?_concat, ih]
    by_cases hx : x.Sets property
    · rw [prefer_of_sets hx (leading? property es)]
      cases he : leading? property es with
      | none => rfl
      | some e =>
        have hsets : e.Sets property := by
          obtain ⟨i, -, hsets, -⟩ := beats_of_leading? he
          exact hsets
        simp only [Option.elim_some, prefer_of_sets hx, prefer_of_sets hsets]
        -- which of the three counts depends on which of them are important
        cases leading? property ds with
        | none =>
          cases he' : e.important <;> cases x.important <;>
            simp [Option.filter, he', prefer_of_sets hx, prefer_of_sets hsets]
        | some d =>
          cases hd' : d.important <;> cases he' : e.important <;> cases hx' : x.important <;>
            simp [Option.filter, hd', he', hx', prefer_of_sets hx, prefer_of_sets hsets]
    · rw [prefer_of_not_sets hx, prefer_of_not_sets hx]

end Declaration

open Declaration

/-- Two blocks settle together what a block of all their declarations settles. -/
theorem DeclarationBlock.leading?_ofDeclarations_append (property : String)
    (ds es : List Declaration) :
    leading? property ((ofDeclarations ds).declarations ++ (ofDeclarations es).declarations) =
      leading? property (ofDeclarations (ds ++ es)).declarations := by
  rw [leading?_append, leading?_ofDeclarations, leading?_ofDeclarations, leading?_ofDeclarations,
    List.flatMap_append, leading?_append]

/-! ### The order of candidates -/

namespace Precedence

variable {p q : Precedence}

/-- What decides between declarations before their places do. -/
def rank (p : Precedence) : Precedence := { p with order := 0, position := 0 }

theorem le_rank_of_lt (h : p < q) : p.rank.le q.rank = true := by
  rw [lt_def, cmp] at h
  rw [le, cmp]
  simp only [rank, Ordering.then_eq_lt] at h ⊢
  rcases h with h | ⟨h, h | ⟨h', h | ⟨h'', -⟩⟩⟩
  · simp [h, Ordering.then]
  · simp [*, Ordering.then]
  · simp [*, Ordering.then]
  · simp [*, Ordering.then]

theorem lt_asymm (h : p < q) : ¬ q < p := not_lt_of_le (le_of_lt h)

end Precedence

namespace Candidate

variable {cs cs' : List Candidate} {c c' : Candidate} {property : String}

/-- What counts of a candidate but for its place. -/
def weight (c : Candidate) : Declaration × Precedence := (c.declaration, c.precedence.rank)

/-- Whether a candidate that comes later is stronger if nothing but its place decides. -/
def Ordered (c c' : Candidate) : Prop :=
  c.precedence.rank = c'.precedence.rank → c.precedence < c'.precedence

theorem not_ordered_of_lt (h : c'.precedence < c.precedence)
    (hle : c.precedence.rank.le c'.precedence.rank = true) : ¬ c.Ordered c' := fun ho =>
  Precedence.lt_asymm h (ho (Precedence.le_antisymm hle (Precedence.le_rank_of_lt h)))

theorem ordered_of_getElem? {i j : Nat} (h : cs.Pairwise Ordered) (hij : i < j)
    (hi : cs[i]? = some c) (hj : cs[j]? = some c') : c.Ordered c' := by
  obtain ⟨hlt, rfl⟩ := List.getElem?_eq_some_iff.1 hi
  obtain ⟨hlt', rfl⟩ := List.getElem?_eq_some_iff.1 hj
  exact List.pairwise_iff_getElem.1 h i j hlt hlt' hij

/-- Candidates of the same weights in the same order have the same strongest declaration. -/
theorem IsStrongest.declaration_eq (hc : IsStrongest cs property c)
    (hc' : IsStrongest cs' property c') (hw : cs'.map weight = cs.map weight)
    (ho : cs.Pairwise Ordered) (ho' : cs'.Pairwise Ordered) :
    c'.declaration = c.declaration := by
  obtain ⟨i, hi⟩ := List.mem_iff_getElem?.1 hc.mem
  obtain ⟨j, hj⟩ := List.mem_iff_getElem?.1 hc'.mem
  have hget : ∀ k, (cs'[k]?).map weight = (cs[k]?).map weight := fun k => by
    rw [← List.getElem?_map, ← List.getElem?_map, hw]
  -- what stands in each list where the other has its strongest candidate
  obtain ⟨b', hb', hw'⟩ : ∃ b', cs'[i]? = some b' ∧ b'.weight = c.weight := by
    simpa [hi] using hget i
  obtain ⟨b, hb, hwb⟩ : ∃ b, cs[j]? = some b ∧ b.weight = c'.weight := by
    have hj' := hget j
    rw [hj, Option.map_some, eq_comm, Option.map_eq_some_iff] at hj'
    exact hj'
  obtain ⟨hd', hr'⟩ := Prod.mk.inj hw'
  obtain ⟨hdb, hrb⟩ := Prod.mk.inj hwb
  by_cases hbc : b = c
  · rw [← hdb, hbc]
  by_cases hbc' : b' = c'
  · rw [← hbc', hd']
  have hsets : b.Sets property := (sets_congr (congrArg Declaration.name hdb)).2 hc'.sets
  have hsets' : b'.Sets property := (sets_congr (congrArg Declaration.name hd')).2 hc.sets
  have hlt := hc.lt b (List.mem_of_getElem? hb) hsets hbc
  have hlt' := hc'.lt b' (List.mem_of_getElem? hb') hsets' hbc'
  have hle : c.precedence.rank.le b.precedence.rank = true := by
    rw [← hr', hrb]
    exact Precedence.le_rank_of_lt hlt'
  have hle' : c'.precedence.rank.le b'.precedence.rank = true := by
    rw [← hrb, hr']
    exact Precedence.le_rank_of_lt hlt
  rcases Nat.lt_trichotomy i j with hij | rfl | hij
  · exact absurd (ordered_of_getElem? ho hij hi hb) (not_ordered_of_lt hlt hle)
  · exact absurd (Option.some.inj (hb.symm.trans hi)) hbc
  · exact absurd (ordered_of_getElem? ho' hij hj hb') (not_ordered_of_lt hlt' hle')

end Candidate

namespace Cascade

variable {matched matched' : List MatchedRule} {inline : Option DeclarationBlock} {r : MatchedRule}

/-- The declarations of rules in order, each with what counts of its rule but for the place. -/
def offers (matched : List MatchedRule) : List (Declaration × Origin × Specificity) :=
  matched.flatMap fun r => r.block.declarations.map fun d => (d, r.origin, r.specificity)

/-- The candidates of a block come in the order of their places. -/
theorem Source.pairwise_ordered (s : Source) : s.candidates.Pairwise Candidate.Ordered := by
  have hidx : (s.block.declarations.zipIdx).Pairwise fun x y => x.2 < y.2 := by
    rw [← List.pairwise_map (R := (· < ·)), List.zipIdx_map_snd]
    exact List.pairwise_lt_range'
  rw [candidates, blockCandidates, List.pairwise_map]
  refine hidx.imp fun {x y} hlt heq => ?_
  have hband := congrArg Precedence.band heq
  simp only [Precedence.rank, Source.precedence] at hband
  rw [Precedence.lt_def, Precedence.cmp]
  simp [Source.precedence, hband, Nat.compare_eq_lt.2 hlt]

/-- All candidates come in order: those of a block by their places, and blocks by theirs. -/
theorem pairwise_ordered_candidates (h : matched.Pairwise fun r r' => r.order < r'.order)
    (inline : Option DeclarationBlock) :
    (candidates matched inline).Pairwise Candidate.Ordered := by
  have hrank : ∀ {s t : Source} {c c' : Candidate}, c ∈ s.candidates → c' ∈ t.candidates →
      c.precedence.rank = c'.precedence.rank → s.inline = t.inline := by
    intro s t c c' hc hc' heq
    obtain ⟨i, -, hi⟩ := Source.mem_candidates.1 hc
    obtain ⟨j, -, hj⟩ := Source.mem_candidates.1 hc'
    rw [hi, hj] at heq
    exact congrArg Precedence.inline heq
  rw [candidates_eq, List.pairwise_flatMap]
  refine ⟨fun s _ => s.pairwise_ordered, ?_⟩
  rw [sources, List.pairwise_append]
  refine ⟨?_, ?_, ?_⟩
  · rw [List.pairwise_map]
    refine h.imp fun {r r'} hlt c hc c' hc' heq => ?_
    obtain ⟨i, -, hi⟩ := Source.mem_candidates.1 hc
    obtain ⟨j, -, hj⟩ := Source.mem_candidates.1 hc'
    rw [hi, hj] at heq ⊢
    have hband := congrArg Precedence.band heq
    have hspecificity := congrArg Precedence.specificity heq
    simp only [Precedence.rank, Source.precedence, Source.ofRule] at hband hspecificity
    rw [Precedence.lt_def, Precedence.cmp]
    simp [Source.precedence, Source.ofRule, hband, hspecificity, Nat.compare_eq_lt.2 hlt]
  · cases inline <;> simp
  · intro s hs t ht c hc c' hc' heq
    obtain ⟨r, -, rfl⟩ := List.mem_map.1 hs
    obtain ⟨b, -, rfl⟩ := List.mem_map.1 ht
    exact absurd (hrank hc hc' heq) (by simp [Source.ofRule, Source.ofInline])

theorem map_weight_candidates (matched : List MatchedRule) (inline : Option DeclarationBlock) :
    (candidates matched inline).map Candidate.weight =
      ((offers matched).map fun x => (x.1, ⟨x.2.1.band x.1.important, false, x.2.2, 0, 0⟩)) ++
        (inline.toList.flatMap inlineCandidates).map Candidate.weight := by
  have hblock : ∀ r : MatchedRule, (ruleCandidates r).map Candidate.weight =
      (r.block.declarations.map fun d => (d, r.origin, r.specificity)).map
        fun x => (x.1, ⟨x.2.1.band x.1.important, false, x.2.2, 0, 0⟩) := by
    intro r
    rw [ruleCandidates, blockCandidates, List.map_map, List.map_map]
    conv_rhs => rw [← List.zipIdx_map_fst 0 r.block.declarations, List.map_map]
    rfl
  rw [candidates, List.map_append, List.map_flatMap, offers, List.map_flatMap (l := matched),
    List.flatMap_congr fun r _ => hblock r]

end Cascade

/-- Only the order of declarations counts, not how they are divided among rules. -/
theorem find?_cascade_of_offers {matched matched' : List MatchedRule}
    (hm : matched.Pairwise fun r r' => r.order < r'.order)
    (hm' : matched'.Pairwise fun r r' => r.order < r'.order)
    (h : Cascade.offers matched' = Cascade.offers matched) (inline : Option DeclarationBlock)
    (property : String) :
    (cascade matched' inline).find? property = (cascade matched inline).find? property := by
  have hweights : (Cascade.candidates matched' inline).map Candidate.weight =
      (Cascade.candidates matched inline).map Candidate.weight := by
    rw [Cascade.map_weight_candidates, Cascade.map_weight_candidates, h]
  have himp : ∀ {l l' : List MatchedRule}, (l.Pairwise fun r r' => r.order < r'.order) →
      (l'.Pairwise fun r r' => r.order < r'.order) →
      (Cascade.candidates l' inline).map Candidate.weight =
        (Cascade.candidates l inline).map Candidate.weight →
      ∀ v, (cascade l inline).find? property = some v →
        (cascade l' inline).find? property = some v := by
    intro l l' hl hl' hw v hv
    obtain ⟨hlong, c, hc, rfl⟩ := (Cascade.find?_settle_eq_some_iff (List.Perm.refl _)
      (Cascade.pairwise_candidates hl inline) property v).1 hv
    obtain ⟨b, hb, hbw⟩ : ∃ b ∈ Cascade.candidates l' inline, b.weight = c.weight := by
      rw [← List.mem_map, hw]
      exact List.mem_map_of_mem hc.mem
    have hsets : b.Sets property := (sets_congr (congrArg (·.1.name) hbw)).2 hc.sets
    obtain ⟨c', hc'⟩ := Candidate.exists_isStrongest (Cascade.pairwise_candidates hl' inline)
      ⟨b, hb, hsets⟩
    have hd := hc.declaration_eq hc' hw (Cascade.pairwise_ordered_candidates hl inline)
      (Cascade.pairwise_ordered_candidates hl' inline)
    refine (Cascade.find?_settle_eq_some_iff (List.Perm.refl _)
      (Cascade.pairwise_candidates hl' inline) property _).2 ⟨hlong, c', hc', ?_⟩
    change c.declaration.valueFor property = c'.declaration.valueFor property
    rw [hd]
  refine Option.ext fun v => ⟨himp hm' hm hweights.symm v, himp hm hm' hweights v⟩

/-! ### Rules in place of one -/

/-- Whether style rules can take the place of one: they are alike but for their blocks, which settle
together what its block settles. -/
structure AppliedRule.Divides (a : AppliedRule) (g : List AppliedRule) : Prop where
  alike : ∀ b ∈ g, b.origin = a.origin ∧ b.selectors = a.selectors
  leading : ∀ property, leading? property (g.flatMap (·.block.declarations)) =
    leading? property a.block.declarations

/-- Whether each of the rules has others in its place. -/
inductive Spread : List AppliedRule → List AppliedRule → Prop where
  | nil : Spread [] []
  | cons {a : AppliedRule} {g l l' : List AppliedRule} (h : a.Divides g) (hs : Spread l l') :
    Spread (a :: l) (g ++ l')

namespace Spread

theorem append {l l' k k' : List AppliedRule} (h : Spread l l') (hk : Spread k k') :
    Spread (l ++ k) (l' ++ k') := by
  induction h with
  | nil => exact hk
  | cons h _ ih =>
    rw [List.append_assoc]
    exact .cons h ih

theorem single {a : AppliedRule} {g : List AppliedRule} (h : a.Divides g) : Spread [a] g := by
  have hs := Spread.cons h .nil
  rwa [List.append_nil] at hs

theorem flatMap {α : Type} {xs : List α} {f f' : α → List AppliedRule}
    (h : ∀ x ∈ xs, Spread (f x) (f' x)) : Spread (xs.flatMap f) (xs.flatMap f') := by
  induction xs with
  | nil => exact .nil
  | cons x xs ih =>
    rw [List.flatMap_cons, List.flatMap_cons]
    exact (h x List.mem_cons_self).append (ih fun y hy => h y (List.mem_cons_of_mem x hy))

end Spread

section Matching

variable (d : Dom) (n : NodeId) (pseudo : Option PseudoElement)

/-- The rules that match an element, where the first of those given has the given order. -/
def matchingFrom (order : Nat) (l : List AppliedRule) : List MatchedRule :=
  (l.zipIdx order).filterMap fun (a, order) =>
    (d.matchSpecificity? n pseudo a.selectors).map fun s => ⟨a.rule, a.block, s, a.origin, order⟩

theorem matchingFrom_cons (order : Nat) (a : AppliedRule) (l : List AppliedRule) :
    matchingFrom d n pseudo order (a :: l) =
      ((d.matchSpecificity? n pseudo a.selectors).map fun s =>
        (⟨a.rule, a.block, s, a.origin, order⟩ : MatchedRule)).toList ++
          matchingFrom d n pseudo (order + 1) l := by
  simp only [matchingFrom, List.zipIdx_cons, List.filterMap_cons]
  cases d.matchSpecificity? n pseudo a.selectors <;> rfl

theorem offers_matchingFrom (order : Nat) (l : List AppliedRule) :
    Cascade.offers (matchingFrom d n pseudo order l) = l.flatMap fun a =>
      ((d.matchSpecificity? n pseudo a.selectors).map fun s =>
        a.block.declarations.map fun e => (e, a.origin, s)).getD [] := by
  induction l generalizing order with
  | nil => rfl
  | cons a l ih =>
    rw [matchingFrom_cons, Cascade.offers, List.flatMap_append, List.flatMap_cons, ← ih (order + 1)]
    cases d.matchSpecificity? n pseudo a.selectors <;> simp [Cascade.offers]

/-- Rules in the place of one offer together what a rule with all their declarations offers. -/
theorem offers_of_divides {a : AppliedRule} {g : List AppliedRule} (h : a.Divides g) (order : Nat)
    {s : Specificity} (hs : d.matchSpecificity? n pseudo a.selectors = some s) :
    Cascade.offers (matchingFrom d n pseudo order g) =
      (g.flatMap (·.block.declarations)).map fun e => (e, a.origin, s) := by
  rw [offers_matchingFrom, List.map_flatMap]
  refine List.flatMap_congr fun b hb => ?_
  obtain ⟨horigin, hselectors⟩ := h.alike b hb
  simp [horigin, hselectors, hs]

theorem pairwise_order_matchingFrom (order : Nat) (l : List AppliedRule) :
    (matchingFrom d n pseudo order l).Pairwise fun r r' => r.order < r'.order := by
  have hidx : (l.zipIdx order).Pairwise fun x y => x.2 < y.2 := by
    rw [← List.pairwise_map (R := (· < ·)), List.zipIdx_map_snd]
    exact List.pairwise_lt_range'
  rw [matchingFrom, List.pairwise_filterMap]
  refine hidx.imp fun {x y} h r hr r' hr' => ?_
  obtain ⟨s, -, rfl⟩ := Option.map_eq_some_iff.1 hr
  obtain ⟨s', -, rfl⟩ := Option.map_eq_some_iff.1 hr'
  exact h

/-- A rule that matches, with the given block. -/
def MatchedRule.holding (r : MatchedRule) (b : DeclarationBlock) : MatchedRule :=
  { r with block := b }

/-- The rules that match can be given the blocks of those in their places, put together. They settle
what they settled, and offer what is offered by those in their places. -/
theorem Spread.exists_holding {l l' : List AppliedRule} (h : Spread l l') (i j : Nat) :
    ∃ held : List MatchedRule,
      List.Forall₂ (fun r r' => ∃ b, r' = r.holding b ∧
        ∀ property, leading? property b.declarations = leading? property r.block.declarations)
        (matchingFrom d n pseudo i l) held ∧
      Cascade.offers held = Cascade.offers (matchingFrom d n pseudo j l') := by
  induction h generalizing i j with
  | nil => exact ⟨[], .nil, rfl⟩
  | @cons a g l l' h _ ih =>
    obtain ⟨held, hheld, hoffers⟩ := ih (i + 1) (j + g.length)
    have hsplit : matchingFrom d n pseudo j (g ++ l') =
        matchingFrom d n pseudo j g ++ matchingFrom d n pseudo (j + g.length) l' := by
      rw [matchingFrom, List.zipIdx_append, List.filterMap_append]
      rfl
    rw [matchingFrom_cons, hsplit, Cascade.offers, List.flatMap_append]
    cases hs : d.matchSpecificity? n pseudo a.selectors with
    | none =>
      refine ⟨held, hheld, ?_⟩
      have hnone : Cascade.offers (matchingFrom d n pseudo j g) = [] := by
        rw [offers_matchingFrom, List.flatMap_eq_nil_iff]
        intro b hb
        simp [(h.alike b hb).2, hs]
      rw [Cascade.offers] at hnone
      rw [hoffers, hnone]
      rfl
    | some s =>
      let r : MatchedRule := ⟨a.rule, a.block, s, a.origin, i⟩
      refine ⟨r.holding ⟨g.flatMap (·.block.declarations)⟩ :: held, .cons ⟨_, rfl, h.leading⟩ hheld,
        ?_⟩
      rw [Cascade.offers, List.flatMap_cons]
      refine congrArg₂ (· ++ ·) ?_ hoffers
      exact (offers_of_divides d n pseudo h j hs).symm

end Matching

/-- Where rules have others in their places, the cascade settles the same. -/
theorem Spread.find?_matching {l l' : List AppliedRule} (h : Spread l l') (d : Dom) (n : NodeId)
    (pseudo : Option PseudoElement) (inline : Option DeclarationBlock) (property : String) :
    (cascade (matchingFrom d n pseudo 1 l') inline).find? property =
      (cascade (matchingFrom d n pseudo 1 l) inline).find? property := by
  obtain ⟨held, hheld, hoffers⟩ := h.exists_holding d n pseudo 1 1
  have hm := pairwise_order_matchingFrom d n pseudo 1 l
  have hm' := pairwise_order_matchingFrom d n pseudo 1 l'
  have horders : held.map (·.order) = (matchingFrom d n pseudo 1 l).map (·.order) := by
    rw [eq_comm, ← List.forall₂_eq_eq_eq, List.forall₂_map_left_iff, List.forall₂_map_right_iff]
    refine hheld.imp fun r r' hr => ?_
    obtain ⟨b, rfl, -⟩ := hr
    rfl
  have hmheld : held.Pairwise fun r r' => r.order < r'.order := by
    rw [← List.pairwise_map (R := (· < ·)), horders]
    exact List.pairwise_map.2 hm
  have hrefl : ∀ x : Option Declaration, Option.Rel Eq x x := fun x => by
    cases x with
    | none => exact .none
    | some e => exact .some rfl
  have hleads : List.Forall₂ (Cascade.Source.Leads Eq property)
      (Cascade.sources (matchingFrom d n pseudo 1 l) inline) (Cascade.sources held inline) := by
    refine List.rel_append ?_ ?_
    · rw [List.forall₂_map_left_iff, List.forall₂_map_right_iff]
      refine hheld.imp fun r r' hr => ?_
      obtain ⟨b, rfl, hb⟩ := hr
      refine ⟨⟨rfl, rfl, rfl, rfl⟩, ?_⟩
      change Option.Rel Eq (leading? property r.block.declarations)
        (leading? property b.declarations)
      rw [hb]
      exact hrefl _
    · exact List.forall₂_same.2 fun s _ => ⟨⟨rfl, rfl, rfl, rfl⟩, hrefl _⟩
  rw [find?_cascade_of_offers hmheld hm' hoffers.symm]
  have hrel := rel_find?_cascade (R := Eq) (fun d e hde => by rw [hde]) hm hmheld hleads
  generalize (cascade (matchingFrom d n pseudo 1 l) inline).find? property = v at hrel
  generalize (cascade held inline).find? property = v' at hrel
  cases hrel with
  | none => rfl
  | some h =>
    obtain ⟨d, _, rfl, rfl, rfl⟩ := h
    rfl

/-! ### How far the walk goes -/

namespace ObjectModel

variable {m m' : ObjectModel} {env : MediaEnvironment} {k : Nat}

theorem Yields.unique {ps : List ModelPart} {a b : AppliedRule} (ha : m.Yields ps a)
    (hb : m.Yields ps b) : a = b := by
  have hstyle := ha.style.symm.trans hb.style
  have horigin := ha.origin.symm.trans hb.origin
  cases a
  cases b
  simp_all

theorem not_before_of_before {t t' : Route} (h : t.Before t') : ¬ t'.Before t :=
  (inferInstance : Std.Asymm (List.Lex fun i j : Nat => i < j)).asymm _ _ h

/-- Walks that may go further than there are sheets and rules take the same routes. -/
theorem Placed.routesAmong_eq (h : m.Placed) (sheets : List SheetId)
    (hk : m.sheets.slots.size + m.rules.slots.size < k) :
    m.routesAmong env k [] (sheets.map .sheet) =
      m.routesAmong env (m.sheets.slots.size + m.rules.slots.size + 1) []
        (sheets.map .sheet) := by
  have hnodup : ∀ k, (m.routesAmong env k [] (sheets.map .sheet)).Nodup := by
    intro k
    refine pairwise_before_routesAmong.imp fun {t t'} hlt heq => ?_
    subst heq
    exact not_before_of_before hlt hlt
  have hmem : ∀ k t, m.sheets.slots.size + m.rules.slots.size < k →
      (t ∈ m.routesAmong env k [] (sheets.map .sheet) ↔
        m.IsRoute env (sheets.map .sheet) t) := by
    intro k t hk
    rw [mem_routesAmong]
    refine ⟨fun ht => ht.2.1, fun ht => ?_⟩
    have hlength := h.length_le_of_isRoute ht
    exact ⟨by omega, ht, by simp⟩
  refine List.Perm.eq_of_pairwise (fun t t' _ _ hlt hlt' => absurd hlt' (not_before_of_before hlt))
    pairwise_before_routesAmong pairwise_before_routesAmong ?_
  refine (List.perm_ext_iff_of_nodup (hnodup _) (hnodup _)).2 fun t => ?_
  rw [hmem k t hk, hmem _ t (Nat.lt_succ_self _)]

/-- They come by the same style rules. -/
theorem Placed.appliedRules_eq (h : m.Placed) (env : MediaEnvironment) (sheets : List SheetId)
    (hk : m.sheets.slots.size + m.rules.slots.size < k) :
    m.appliedRules env sheets = sheets.flatMap (m.sheetRules env k []) := by
  have horigin : ∀ r, .rule r ∈ sheets.map ModelPart.sheet → m.originAt? [] = some .author := by
    simp
  have hfar := m.forall₂_routesAmong env k [] horigin
  rw [h.routesAmong_eq sheets hk, List.flatMap_map] at hfar
  have hnear := m.forall₂_appliedRules env sheets
  generalize m.routesAmong env _ [] (sheets.map .sheet) = routes at hfar hnear
  change List.Forall₂ _ routes (sheets.flatMap (m.sheetRules env k [])) at hfar
  generalize sheets.flatMap (m.sheetRules env k []) = far at hfar
  generalize m.appliedRules env sheets = near at hnear
  induction hnear generalizing far with
  | nil =>
    cases hfar
    rfl
  | cons hyields _ ih =>
    cases hfar with
    | cons hyields' hrest => rw [hyields.unique hyields', ih _ hrest]

end ObjectModel

/-! ### Models with rules divided -/

/-- A content with other handles, where the rules inside have others in their places. -/
def RuleContent.renamed (sheetAs : SheetId → SheetId) (rulesAs : RuleId → List RuleId) :
    RuleContent → RuleContent
  | .media l rules => .media l (rules.flatMap rulesAs)
  | .importing href l sheet => .importing href l (sheet.map sheetAs)
  | c => c

namespace ObjectModel

/-- The content of a rule, if its handle leads to one. -/
def contentOf? (m : ObjectModel) (r : RuleId) : Option RuleContent := (m.rule? r).map (·.content)

/-- Whether rules are what a rule of the given content becomes: the same, or two style rules that
have its selectors and its declarations between them. -/
inductive Becomes (m' : ObjectModel) (sheetAs : SheetId → SheetId)
    (rulesAs : RuleId → List RuleId) : RuleContent → List RuleId → Prop where
  | same {c : RuleContent} {r : RuleId} (h : m'.contentOf? r = some (c.renamed sheetAs rulesAs)) :
    Becomes m' sheetAs rulesAs c [r]
  | split {selectors : SelectorList} {ds es : List Declaration} {r₁ r₂ : RuleId}
    (h₁ : m'.contentOf? r₁ = some (.style selectors (.ofDeclarations ds)))
    (h₂ : m'.contentOf? r₂ = some (.style selectors (.ofDeclarations es))) :
    Becomes m' sheetAs rulesAs (.style selectors (.ofDeclarations (ds ++ es))) [r₁, r₂]

/-- Whether a model is another one in which style rules are divided into two that follow each other.
Its handles may differ: those of sheets are told by `sheetAs`, those of rules by `rulesAs`. -/
structure Splits (m m' : ObjectModel) (sheetAs : SheetId → SheetId)
    (rulesAs : RuleId → List RuleId) : Prop where
  injective : Function.Injective sheetAs
  sheets : ∀ s, (m'.sheet? (sheetAs s)).map (·.shown) = (m.sheet? s).map fun sheet =>
    (sheet.disabled, sheet.media, sheet.origin, sheet.rules.flatMap rulesAs)
  rules : ∀ r c, m.contentOf? r = some c → Becomes m' sheetAs rulesAs c (rulesAs r)

variable {m m' : ObjectModel} {env : MediaEnvironment} {k : Nat} {sheetAs : SheetId → SheetId}
  {rulesAs : RuleId → List RuleId} {r : RuleId} {c : RuleContent} {origin : Origin}
  {path : List SheetId}

/-- The style rules that a content amounts to, where the rules inside and the sheet that it imports
amount to those given. -/
def stylesIn (env : MediaEnvironment) (origin : Origin) (r : RuleId)
    (inner : RuleId → List AppliedRule) (below : SheetId → List AppliedRule) :
    RuleContent → List AppliedRule
  | .style selectors block => [⟨r, origin, selectors, block⟩]
  | .media l rules => if env.holds l then rules.flatMap inner else []
  | .importing _ l (some s) => if env.holds l then below s else []
  | _ => []

theorem innerStyleRules_succ (hr : m.contentOf? r = some c) :
    m.innerStyleRules env (k + 1) path origin r =
      stylesIn env origin r (m.innerStyleRules env k path origin) (m.sheetRules env k path) c := by
  obtain ⟨rule, hrule, rfl⟩ := Option.map_eq_some_iff.1 hr
  rw [innerStyleRules, hrule]
  rcases rule with ⟨content⟩
  rcases content with _ | _ | ⟨_, _, _ | _⟩ | _ | _ <;> rfl

theorem divides_self (a : AppliedRule) (r : RuleId) : a.Divides [{ a with rule := r }] :=
  ⟨by simp, fun property => by simp⟩

theorem divides_split (r r₁ r₂ : RuleId) (origin : Origin) (selectors : SelectorList)
    (ds es : List Declaration) :
    (⟨r, origin, selectors, .ofDeclarations (ds ++ es)⟩ : AppliedRule).Divides
      [⟨r₁, origin, selectors, .ofDeclarations ds⟩, ⟨r₂, origin, selectors, .ofDeclarations es⟩] :=
  ⟨by simp, fun property => by
    simpa using DeclarationBlock.leading?_ofDeclarations_append property ds es⟩

/-- What a rule becomes amounts to its style rules, divided. -/
theorem Becomes.spread {rs : List RuleId} (h : Becomes m' sheetAs rulesAs c rs)
    (hc : m.contentOf? r = some c)
    (hrules : ∀ x ∈ c.children, Spread (m.innerStyleRules env k path origin x)
      ((rulesAs x).flatMap (m'.innerStyleRules env k (path.map sheetAs) origin)))
    (hsheets : ∀ s, Spread (m.sheetRules env k path s)
      (m'.sheetRules env k (path.map sheetAs) (sheetAs s))) :
    Spread (m.innerStyleRules env (k + 1) path origin r)
      (rs.flatMap (m'.innerStyleRules env (k + 1) (path.map sheetAs) origin)) := by
  rw [innerStyleRules_succ hc]
  cases h with
  | split h₁ h₂ =>
    rw [List.flatMap_cons, List.flatMap_singleton, innerStyleRules_succ h₁, innerStyleRules_succ h₂]
    exact .single (divides_split _ _ _ _ _ _ _)
  | @same _ r' h =>
    rw [List.flatMap_singleton, innerStyleRules_succ h]
    cases c with
    | style selectors block => exact .single (divides_self _ _)
    | fontFace block => exact .nil
    | page selector block => exact .nil
    | media l rules =>
      simp only [stylesIn, RuleContent.renamed]
      split
      · rw [List.flatMap_assoc]
        exact .flatMap hrules
      · exact .nil
    | importing href l sheet =>
      cases sheet with
      | none => exact .nil
      | some s =>
        simp only [stylesIn, RuleContent.renamed, Option.map_some]
        split
        · exact hsheets s
        · exact .nil

namespace Splits

variable (h : m.Splits m' sheetAs rulesAs) (hm : m.Placed)
include h hm

/-- Walks that go as far in both models come by the style rules of one of them, divided. -/
theorem spread_walk (env : MediaEnvironment) (k : Nat) :
    (∀ path s, Spread (m.sheetRules env k path s)
      (m'.sheetRules env k (path.map sheetAs) (sheetAs s))) ∧
    ∀ path origin r, (m.rule? r).isSome → Spread (m.innerStyleRules env k path origin r)
      ((rulesAs r).flatMap (m'.innerStyleRules env k (path.map sheetAs) origin)) := by
  induction k with
  | zero =>
    constructor
    · intro path s
      rw [sheetRules, sheetRules]
      exact .nil
    · intro path origin r _
      have hnil : (rulesAs r).flatMap (m'.innerStyleRules env 0 (path.map sheetAs) origin) = [] :=
        List.flatMap_eq_nil_iff.2 fun x _ => by rw [innerStyleRules]
      rw [innerStyleRules, hnil]
      exact .nil
  | succ k ih =>
    constructor
    · intro path s
      have hshown := h.sheets s
      rw [sheetRules, sheetRules]
      cases hs : m.sheet? s with
      | none =>
        rw [hs, Option.map_none, Option.map_eq_none_iff] at hshown
        rw [hshown]
        exact .nil
      | some sheet =>
        rw [hs, Option.map_some, Option.map_eq_some_iff] at hshown
        obtain ⟨sheet', hs', hshown⟩ := hshown
        simp only [StyleSheet.shown, Prod.mk.injEq] at hshown
        obtain ⟨hdisabled, hmedia, horigin, hrules⟩ := hshown
        have hcontains : (path.map sheetAs).contains (sheetAs s) = path.contains s := by
          rw [Bool.eq_iff_iff, List.contains_iff_mem, List.contains_iff_mem,
            List.mem_map_of_injective h.injective]
        simp only [hs', hdisabled, hmedia, horigin, hrules, hcontains]
        split
        · exact .nil
        · rw [List.flatMap_assoc]
          refine .flatMap fun r hr => ih.2 (s :: path) sheet.origin r ?_
          exact hm.live (.sheet s) r (by simp [heldBy, hs, hr])
    · intro path origin r hr
      obtain ⟨rule, hr⟩ := Option.isSome_iff_exists.1 hr
      have hc : m.contentOf? r = some rule.content := by rw [contentOf?, hr, Option.map_some]
      refine (h.rules r _ hc).spread hc (fun x hx => ih.2 path origin x ?_) (ih.1 path)
      exact hm.live (.rule r) x (by simp [heldBy, hr, hx])

theorem spread_appliedRules (hm' : m'.Placed) (env : MediaEnvironment) (sheets : List SheetId) :
    Spread (m.appliedRules env sheets) (m'.appliedRules env (sheets.map sheetAs)) := by
  let far := m.sheets.slots.size + m.rules.slots.size +
    (m'.sheets.slots.size + m'.rules.slots.size) + 1
  rw [hm.appliedRules_eq env sheets (k := far) (by omega),
    hm'.appliedRules_eq env (sheets.map sheetAs) (k := far) (by omega), List.flatMap_map]
  exact .flatMap fun s _ => (h.spread_walk hm env far).1 [] s

/-- Where style rules are divided, elements get the same specified values: whatever selectors, media
and other rules there are, and also for important declarations, for properties that are declared
more than once, and for shorthands. -/
theorem find?_cascade (hm' : m'.Placed) (env : MediaEnvironment) (sheets : List SheetId) (d : Dom)
    (n : NodeId) (pseudo : Option PseudoElement) (inline : Option DeclarationBlock)
    (property : String) :
    (cascade (matchedRules m' env (sheets.map sheetAs) d n pseudo) inline).find? property =
      (cascade (matchedRules m env sheets d n pseudo) inline).find? property :=
  (h.spread_appliedRules hm hm' env sheets).find?_matching d n pseudo inline property

end Splits

/-- The declarations of a rule, in two parts. The second one overrides both declarations of the
first one, a shorthand that waits for a custom property in part. -/
def firstPart : String := "top:0!important;margin:var(--x)"

def secondPart : String := "top:1px;margin-top:0"

/-- A sheet with a rule under media, before another rule. -/
def undivided : ObjectModel :=
  [Edit.createSheet none "" .author, .replaceRules ⟨0, 0⟩
    ("@media screen\x7b p\x7b" ++ firstPart ++ ";" ++ secondPart ++ "\x7d\x7d p\x7b\x7d")].foldl
      Edit.apply (empty .full)

/-- The sheet with the rule divided. -/
def divided : ObjectModel :=
  [Edit.createSheet none "" .author, .replaceRules ⟨0, 0⟩
    ("@media screen\x7b p\x7b" ++ firstPart ++ "\x7d p\x7b" ++ secondPart ++
      "\x7d\x7d p\x7b\x7d")].foldl Edit.apply (empty .full)

/-- What the rules have become. -/
def dividedAs (r : RuleId) : List RuleId :=
  if r = ⟨1, 0⟩ then [⟨1, 0⟩, ⟨2, 0⟩] else if r = ⟨2, 0⟩ then [⟨3, 0⟩] else [r]

theorem splits_divided : undivided.Splits divided id dividedAs := by
  obtain ⟨hkeys, hcontents, hsheet, hsame⟩ :
      ((undivided.sheets.toList.map Prod.fst = [⟨0, 0⟩] ∧
        divided.sheets.toList.map Prod.fst = [⟨0, 0⟩]) ∧
        undivided.rules.toList.map Prod.fst = [⟨0, 0⟩, ⟨1, 0⟩, ⟨2, 0⟩]) ∧
      (undivided.contentOf? ⟨1, 0⟩ = some (.style [⟨⟨[.plain (.type "p")], none⟩, []⟩]
        (.ofDeclarations (Declaration.listOfString firstPart ++
          Declaration.listOfString secondPart))) ∧
        divided.contentOf? ⟨1, 0⟩ = some (.style [⟨⟨[.plain (.type "p")], none⟩, []⟩]
          (.ofDeclarations (Declaration.listOfString firstPart))) ∧
        divided.contentOf? ⟨2, 0⟩ = some (.style [⟨⟨[.plain (.type "p")], none⟩, []⟩]
          (.ofDeclarations (Declaration.listOfString secondPart)))) ∧
      (divided.sheet? ⟨0, 0⟩).map (·.shown) = (undivided.sheet? ⟨0, 0⟩).map (fun sheet =>
        (sheet.disabled, sheet.media, sheet.origin, sheet.rules.flatMap dividedAs)) ∧
      ∀ p ∈ [((⟨0, 0⟩, ⟨0, 0⟩) : RuleId × RuleId), (⟨2, 0⟩, ⟨3, 0⟩)],
        dividedAs p.1 = [p.2] ∧ divided.contentOf? p.2 =
          (undivided.contentOf? p.1).map (RuleContent.renamed id dividedAs) := by
    decide +kernel
  have hnone : ∀ (m : ObjectModel) (s : SheetId), m.sheets.toList.map Prod.fst = [⟨0, 0⟩] →
      s ≠ ⟨0, 0⟩ → m.sheet? s = none := by
    intro m s hm hs
    by_contra hsheet
    obtain ⟨sheet, hsheet⟩ := Option.ne_none_iff_exists'.1 hsheet
    have hmem := List.mem_map_of_mem (f := Prod.fst) (Slots.mem_toList.2 hsheet)
    rw [hm] at hmem
    exact hs (List.mem_singleton.1 hmem)
  refine ⟨Function.injective_id, fun s => ?_, fun r c hc => ?_⟩
  · by_cases hs : s = ⟨0, 0⟩
    · rw [hs]
      exact hsheet
    · rw [hnone undivided s hkeys.1.1 hs, id, hnone divided s hkeys.1.2 hs]
      rfl
  · obtain ⟨rule, hr, -⟩ := Option.map_eq_some_iff.1 hc
    have hmem := List.mem_map_of_mem (f := Prod.fst) (Slots.mem_toList.2 hr)
    simp only [hkeys.2, List.mem_cons, List.not_mem_nil, or_false] at hmem
    have hbecomes : ∀ r' : RuleId, (dividedAs r = [r'] ∧ divided.contentOf? r' =
        (undivided.contentOf? r).map (RuleContent.renamed id dividedAs)) →
        Becomes divided id dividedAs c (dividedAs r) := by
      rintro r' ⟨hr, hr'⟩
      rw [hr]
      exact .same (by rw [hr', hc, Option.map_some])
    rcases hmem with rfl | rfl | rfl
    · exact hbecomes ⟨0, 0⟩ (hsame (_, _) (by simp))
    · obtain rfl := Option.some.inj (hc.symm.trans hcontents.1)
      exact .split hcontents.2.1 hcontents.2.2
    · exact hbecomes ⟨3, 0⟩ (hsame (_, _) (by simp))

theorem find?_cascade_divided :
    let env := MediaEnvironment.screen 800.0 600.0
    let values := cascade (matchedRules undivided env [⟨0, 0⟩] paragraph.1 paragraph.2 none) none
    let values' := cascade (matchedRules divided env [⟨0, 0⟩] paragraph.1 paragraph.2 none) none
    (∀ property, values'.find? property = values.find? property) ∧
      ["top", "margin-top", "margin-left"].map values.find? =
        [some (.declared "0"), some (.declared "0"), some (.pending "margin" "var(--x)")] := by
  intro env values values'
  have hplaced : undivided.Placed ∧ divided.Placed :=
    ⟨(Reachable.empty.edits _).placed, (Reachable.empty.edits _).placed⟩
  refine ⟨fun property => ?_, by decide +kernel⟩
  have hsame := splits_divided.find?_cascade hplaced.1 hplaced.2 env [⟨0, 0⟩] paragraph.1
    paragraph.2 none none property
  rwa [List.map_id] at hsame

end ObjectModel

end WebStyle
