import WebStyle.Proofs.Block
import WebStyle.Proofs.Cascade
/-!
What a block has to say about a property: its leading declaration, which is the last important one
that sets the property, or else the last one. The cascade depends on nothing but the leading
declarations of the blocks that take part.
-/
set_option autoImplicit false

namespace WebStyle

namespace Declaration

/-- Whether a declaration sets a property: it names it, or names a shorthand that covers it. -/
def Sets (d : Declaration) (property : String) : Prop :=
  d.name = property ∨ ∃ s, Shorthand.ofName? d.name = some s ∧ property ∈ s.longhands

instance (d : Declaration) (property : String) : Decidable (d.Sets property) :=
  decidable_of_iff (d.name = property ∨
    (Shorthand.ofName? d.name).any (fun s => decide (property ∈ s.longhands)) = true) <| by
      simp [Sets, Option.any_eq_true]

/-- What a declaration settles for a property that it sets. -/
def valueFor (d : Declaration) (property : String) : SpecifiedValue :=
  if d.name = property then .declared d.value else .pending d.name d.value

/-- Takes a later declaration into account. A normal one does not displace an important one. -/
def prefer (property : String) (best : Option Declaration) (d : Declaration) : Option Declaration :=
  if d.Sets property then some ((best.filter fun old => old.important && !d.important).getD d)
  else best

/-- The declaration of a list that counts for a property. -/
def leading? (property : String) (ds : List Declaration) : Option Declaration :=
  ds.foldl (prefer property) none

variable {property : String} {ds es : List Declaration} {d e : Declaration}

theorem leading?_concat : leading? property (ds ++ [d]) =
    prefer property (leading? property ds) d :=
  List.foldl_append

/-- Different names settle different values. -/
theorem name_eq_of_valueFor_eq (h : d.valueFor property = e.valueFor property) :
    d.name = e.name := by
  unfold valueFor at h
  split at h <;> split at h <;> simp_all

/-- Whether a declaration at one place of a list counts more than one at another place: it alone is
important, or both are alike and it comes later. -/
def Beats (d : Declaration) (i : Nat) (e : Declaration) (j : Nat) : Prop :=
  e.important < d.important ∨ e.important = d.important ∧ j < i

theorem prefer_of_sets (h : d.Sets property) (best : Option Declaration) :
    prefer property best d = some ((best.filter fun old => old.important && !d.important).getD d) :=
  if_pos h

theorem prefer_of_not_sets (h : ¬ d.Sets property) (best : Option Declaration) :
    prefer property best d = best :=
  if_neg h

theorem leading?_eq_none : leading? property ds = none ↔ ∀ d ∈ ds, ¬ d.Sets property := by
  induction ds using List.reverseRecOn with
  | nil => simp [leading?]
  | append_singleton ds e ih =>
    rw [leading?_concat]
    by_cases he : e.Sets property
    · rw [prefer_of_sets he]
      exact iff_of_false (by simp) fun h => h e (by simp) he
    · rw [prefer_of_not_sets he, ih]
      simp [he, or_imp, forall_and]

theorem Beats.asymm {i j : Nat} (h : d.Beats i e j) : ¬ e.Beats j d i := by
  rcases h with h | ⟨h, hij⟩
  · rintro (h' | ⟨h', -⟩)
    · exact absurd h (Bool.lt_asymm h')
    · exact Bool.lt_irrefl _ (h' ▸ h)
  · rintro (h' | ⟨-, hji⟩)
    · exact Bool.lt_irrefl _ (h ▸ h')
    · omega

theorem beats_of_leading? (h : leading? property ds = some d) : ∃ i, ds[i]? = some d ∧
    d.Sets property ∧ ∀ j e, ds[j]? = some e → e.Sets property → j ≠ i → d.Beats i e j := by
  induction ds using List.reverseRecOn generalizing d with
  | nil => simp [leading?] at h
  | append_singleton ds e ih =>
    have hget : ∀ {i x}, (ds ++ [e])[i]? = some x ↔ ds[i]? = some x ∨ i = ds.length ∧ x = e := by
      intro i x
      rcases Nat.lt_trichotomy i ds.length with h | rfl | h
      · simp [List.getElem?_append_left h, h.ne]
      · simp [eq_comm]
      · simp [List.getElem?_append_right h.le, List.getElem?_eq_none h.le, h.ne',
          Nat.sub_ne_zero_of_lt h]
    have hlt : ∀ {i x}, ds[i]? = some x → i < ds.length :=
      fun hx => (List.getElem?_eq_some_iff.1 hx).1
    rw [leading?_concat] at h
    by_cases he : e.Sets property
    · rw [prefer_of_sets he, Option.some.injEq] at h
      cases hold : leading? property ds with
      | none =>
        rw [hold] at h
        obtain rfl : e = d := h
        rw [leading?_eq_none] at hold
        refine ⟨ds.length, hget.2 (.inr ⟨rfl, rfl⟩), he, fun j x hx hsets hj => ?_⟩
        rcases hget.1 hx with hx | ⟨rfl, -⟩
        · exact absurd hsets (hold x (List.mem_of_getElem? hx))
        · exact absurd rfl hj
      | some old =>
        obtain ⟨i, hi, hsets, hbeats⟩ := ih hold
        rw [hold] at h
        by_cases hkeep : (old.important && !e.important) = true
        · obtain rfl : old = d := by simpa [Option.filter, hkeep] using h
          refine ⟨i, hget.2 (.inl hi), hsets, fun j x hx hxs hj => ?_⟩
          rcases hget.1 hx with hx | ⟨rfl, rfl⟩
          · exact hbeats j x hx hxs hj
          · exact .inl (by simpa [Bool.lt_iff, and_comm] using hkeep)
        · obtain rfl : e = d := by simpa [Option.filter, hkeep] using h
          refine ⟨ds.length, hget.2 (.inr ⟨rfl, rfl⟩), he, fun j x hx hxs hj => ?_⟩
          rcases hget.1 hx with hx | ⟨rfl, -⟩
          · -- the new one beats the old one, and with it all that the old one beats
            have hj' := hlt hx
            have hle : x.important ≤ old.important := by
              by_cases hji : j = i
              · subst hji
                rw [Option.some.inj (hx.symm.trans hi)]
              · rcases hbeats j x hx hxs hji with h' | ⟨h', -⟩
                · exact h'.le
                · exact h'.le
            have hold' : old.important ≤ e.important := by
              revert hkeep
              cases old.important <;> cases e.important <;> simp
            rcases (hle.trans hold').lt_or_eq with h' | h'
            · exact .inl h'
            · exact .inr ⟨h', hj'⟩
          · exact absurd rfl hj
    · rw [prefer_of_not_sets he] at h
      obtain ⟨i, hi, hsets, hbeats⟩ := ih h
      refine ⟨i, hget.2 (.inl hi), hsets, fun j x hx hxs hj => ?_⟩
      rcases hget.1 hx with hx | ⟨rfl, rfl⟩
      · exact hbeats j x hx hxs hj
      · exact absurd hxs he

/-- The leading declaration is the one that sets the property and beats all others that do. -/
theorem leading?_eq_some_iff : leading? property ds = some d ↔ ∃ i, ds[i]? = some d ∧
    d.Sets property ∧ ∀ j e, ds[j]? = some e → e.Sets property → j ≠ i → d.Beats i e j := by
  refine ⟨beats_of_leading?, ?_⟩
  rintro ⟨i, hi, hsets, hbeats⟩
  cases hlead : leading? property ds with
  | none => exact absurd hsets (leading?_eq_none.1 hlead d (List.mem_of_getElem? hi))
  | some e =>
    obtain ⟨j, hj, hsets', hbeats'⟩ := beats_of_leading? hlead
    by_cases hij : i = j
    · subst hij
      rw [hi] at hj
      exact hj.symm
    · exact absurd (hbeats' i d hi hsets hij) (hbeats j e hj hsets' (Ne.symm hij)).asymm

/-- Declarations that do not set the property make no difference. -/
theorem leading?_filter {keep : Declaration → Bool}
    (h : ∀ d ∈ ds, d.Sets property → keep d = true) :
    leading? property (ds.filter keep) = leading? property ds := by
  induction ds using List.reverseRecOn with
  | nil => rfl
  | append_singleton ds e ih =>
    have ih := ih fun d hd => h d (List.mem_append_left _ hd)
    rw [List.filter_append, leading?_concat]
    cases hkeep : keep e with
    | true => rw [List.filter_singleton, hkeep, cond_true, leading?_concat, ih]
    | false =>
      have he : ¬ e.Sets property := fun he => by simp [h e (by simp) he] at hkeep
      rw [List.filter_singleton, hkeep, cond_false, List.append_nil, ih, prefer_of_not_sets he]

/-- If the leading declaration is important, it leads all important ones. -/
theorem filter_leading? : (leading? property ds).filter (·.important) =
    leading? property (ds.filter (·.important)) := by
  induction ds using List.reverseRecOn with
  | nil => rfl
  | append_singleton ds e ih =>
    rw [List.filter_append, leading?_concat, List.filter_singleton]
    by_cases he : e.Sets property
    · rw [prefer_of_sets he]
      cases himp : e.important with
      | true => simp [leading?_concat, prefer_of_sets he, himp]
      | false =>
        rw [cond_false, List.append_nil, ← ih]
        cases hl : leading? property ds with
        | none => simp [himp]
        | some l => cases hl' : l.important <;> simp [Option.filter, himp, hl']
    · rw [prefer_of_not_sets he, ih]
      cases himp : e.important with
      | true => rw [cond_true, leading?_concat, prefer_of_not_sets he]
      | false => rw [cond_false, List.append_nil]

/-- Where an important declaration sets the property, the leading one is important. -/
theorem important_of_leading? (h : leading? property ds = some d) (he : e ∈ ds)
    (hs : e.Sets property) (hi : e.important = true) : d.important = true := by
  by_contra hd
  have hnone : (leading? property ds).filter (·.important) = none := by simp [h, Option.filter, hd]
  rw [filter_leading?, leading?_eq_none] at hnone
  exact hnone e (List.mem_filter.2 ⟨he, hi⟩) hs

theorem sets_congr (h : d.name = e.name) : d.Sets property ↔ e.Sets property := by
  rw [Sets, Sets, h]

end Declaration

namespace DeclarationBlock

open Declaration

variable {b : DeclarationBlock} {property : String} {d e : Declaration}

/-- An important declaration of the same name leads a normal one that is added. -/
theorem prefer_of_important {old : Declaration} (hfind : b.find? d.name = some old)
    (hold : old.important = true) (hd : d.important = false) :
    prefer property (leading? property b.declarations) d = leading? property b.declarations := by
  obtain ⟨hmem, hname⟩ := mem_of_find? hfind
  by_cases hsets : d.Sets property
  · have hsets' : old.Sets property := (sets_congr hname).2 hsets
    cases hl : leading? property b.declarations with
    | none => exact absurd hsets' (leading?_eq_none.1 hl old hmem)
    | some l =>
      have himp := important_of_leading? hl hmem hsets' hold
      simp [prefer_of_sets hsets, Option.filter, himp, hd]
  · exact prefer_of_not_sets hsets _

/-- A declaration takes the place of another one of its name that is not more important. -/
theorem prefer_erase (d : Declaration)
    (h : ∀ e ∈ b.declarations, e.name = d.name → d.important = false → e.important = false) :
    prefer property (leading? property (b.erase [d.name]).declarations) d =
      prefer property (leading? property b.declarations) d := by
  by_cases hsets : d.Sets property
  · rw [prefer_of_sets hsets, prefer_of_sets hsets]
    cases hd : d.important with
    | true => simp
    | false =>
      have hsame : (b.erase [d.name]).declarations.filter (·.important) =
          b.declarations.filter (·.important) := by
        rw [erase, List.filter_filter]
        refine List.filter_congr fun e he => ?_
        cases hi : e.important with
        | false => rfl
        | true =>
          have hne : e.name ≠ d.name := fun hname => by simp [h e he hname hd] at hi
          simp [hne]
      simp only [Bool.not_false, Bool.and_true, filter_leading?, hsame]
  · rw [prefer_of_not_sets hsets, prefer_of_not_sets hsets]
    refine leading?_filter fun e _ hsets' => ?_
    have hne : e.name ≠ d.name := fun hname => hsets ((sets_congr hname).1 hsets')
    simp [hne]

/-- Adding a declaration takes it into account, and displaces none that still counts. -/
theorem leading?_add (hb : (names b.declarations).Nodup) (d : Declaration) :
    leading? property (b.add d).declarations =
      prefer property (leading? property b.declarations) d := by
  cases hfind : b.find? d.name with
  | none => rw [add_of_notMem (find?_eq_none.1 hfind), leading?_concat]
  | some old =>
    by_cases hkept : (old.important && !d.important) = true
    · have hadd : b.add d = b := by simp [add, hfind, hkept]
      rw [Bool.and_eq_true, Bool.not_eq_true'] at hkept
      rw [hadd, prefer_of_important hfind hkept.1 hkept.2]
    · have hadd : b.add d = ⟨(b.erase [d.name]).declarations ++ [d]⟩ := by
        simp [add, hfind, hkept]
      rw [hadd, leading?_concat, prefer_erase]
      intro e he hname hd
      obtain rfl := Option.some.inj (hfind.symm.trans (hname ▸ find?_of_mem hb he))
      simpa [hd] using hkept

theorem leading?_foldl_add {ds : List Declaration} (hb : b.Flat)
    (h : ∀ d ∈ ds, expandable? d.name d.value = none) :
    leading? property (ds.foldl DeclarationBlock.add b).declarations =
      ds.foldl (prefer property) (leading? property b.declarations) := by
  induction ds generalizing b with
  | nil => rfl
  | cons d ds ih =>
    rw [List.foldl_cons, List.foldl_cons, ← leading?_add hb.nodup]
    exact ih (hb.add (h d List.mem_cons_self)) fun e he => h e (List.mem_cons_of_mem d he)

/-- A block settles what its declarations settle as they were written, shorthands expanded. -/
theorem leading?_ofDeclarations (ds : List Declaration) :
    leading? property (ofDeclarations ds).declarations =
      leading? property (ds.flatMap expansion) := by
  refine leading?_foldl_add ⟨List.nodup_nil, by simp [empty]⟩ fun d hd => ?_
  obtain ⟨e, -, hd⟩ := List.mem_flatMap.1 hd
  exact settled_of_mem_expansion hd

end DeclarationBlock

/-! ### The blocks that take part -/

namespace Cascade

open Declaration

/-- A block, with what decides between its declarations and those of others. -/
structure Source where
  origin : Origin
  inline : Bool
  specificity : Specificity
  order : Nat
  block : DeclarationBlock

namespace Source

def precedence (s : Source) (important : Bool) (position : Nat) : Precedence :=
  ⟨s.origin.band important, s.inline, s.specificity, s.order, position⟩

def candidates (s : Source) : List Candidate := blockCandidates s.precedence s.block

def ofRule (r : MatchedRule) : Source := ⟨r.origin, false, r.specificity, r.order, r.block⟩

def ofInline (b : DeclarationBlock) : Source := ⟨.author, true, .zero, 0, b⟩

end Source

/-- The blocks of the given rules and of the `style` attribute. -/
def sources (matched : List MatchedRule) (inline : Option DeclarationBlock) : List Source :=
  matched.map Source.ofRule ++ inline.toList.map Source.ofInline

theorem candidates_eq (matched : List MatchedRule) (inline : Option DeclarationBlock) :
    candidates matched inline = (sources matched inline).flatMap Source.candidates := by
  rw [candidates, sources, List.flatMap_append, List.flatMap_map, List.flatMap_map]
  rfl

/-- What decides between blocks that differ in it, whatever their declarations are. -/
def Source.Apart (s t : Source) : Prop := s.inline ≠ t.inline ∨ s.order ≠ t.order

variable {s t s' t' : Source} {property : String} {d e : Declaration} {c c' : Candidate}

theorem Source.mem_candidates : c ∈ s.candidates ↔ ∃ i, s.block.declarations[i]? =
    some c.declaration ∧ c.precedence = s.precedence c.declaration.important i := by
  simp only [candidates, blockCandidates, List.mem_map, Prod.exists, List.mem_zipIdx_iff_getElem?]
  constructor
  · rintro ⟨d, i, hi, rfl⟩
    exact ⟨i, hi, rfl⟩
  · rintro ⟨i, hi, hp⟩
    exact ⟨c.declaration, i, hi, by rw [← hp]⟩

/-- Within a block, declarations are decided between by their importance and their place. -/
theorem Source.precedence_lt {i j : Nat} (h : d.Beats i e j) :
    s.precedence e.important j < s.precedence d.important i := by
  rw [Precedence.lt_def, Precedence.cmp]
  rcases h with h | ⟨h, hji⟩
  · obtain ⟨he, hd⟩ := Bool.lt_iff.1 h
    rw [he, hd]
    have hband : compare (s.origin.band false) (s.origin.band true) = .lt := by
      cases s.origin <;> decide
    simp [Source.precedence, hband]
  · simp [Source.precedence, h, Nat.compare_eq_lt.2 hji]

/-- Between blocks that are apart, places make no difference. -/
theorem Source.Apart.precedence_lt {a b : Bool} {i j : Nat} (h : s.Apart t) (i' j' : Nat)
    (hlt : s.precedence a i < t.precedence b j) : s.precedence a i' < t.precedence b j' := by
  rw [Precedence.lt_def, Precedence.cmp] at hlt ⊢
  simp only [Source.precedence, Ordering.then_eq_lt] at hlt ⊢
  refine hlt.imp_right (And.imp_right ?_)
  rintro (h₁ | ⟨h₁, h₂ | ⟨h₂, h₃ | ⟨h₃, -⟩⟩⟩)
  · exact .inl h₁
  · exact .inr ⟨h₁, .inl h₂⟩
  · exact .inr ⟨h₁, .inr ⟨h₂, .inl h₃⟩⟩
  · rcases h with h | h
    · exact absurd (Std.compare_eq_iff_eq.1 h₁) h
    · exact absurd (Std.compare_eq_iff_eq.1 h₃) h

/-- The leading declaration of a block is the strongest of its candidates. -/
theorem Source.isStrongest_of_leading? (h : leading? property s.block.declarations = some d) :
    ∃ i, Candidate.IsStrongest s.candidates property ⟨d, s.precedence d.important i⟩ := by
  obtain ⟨i, hi, hsets, hbeats⟩ := beats_of_leading? h
  refine ⟨i, Source.mem_candidates.2 ⟨i, hi, rfl⟩, hsets, fun c hc hcs hne => ?_⟩
  obtain ⟨j, hj, hp⟩ := Source.mem_candidates.1 hc
  have hji : j ≠ i := by
    rintro rfl
    obtain ⟨d', p'⟩ := c
    obtain rfl : d = d' := Option.some.inj (hi.symm.trans hj)
    exact hne (congrArg (Candidate.mk d) hp)
  rw [hp]
  exact precedence_lt (hbeats j c.declaration hj hcs hji)

/-- Whether what decides between two blocks and others is the same. -/
def Source.SameRank (s s' : Source) : Prop :=
  s'.origin = s.origin ∧ s'.inline = s.inline ∧ s'.specificity = s.specificity ∧
    s'.order = s.order

theorem Source.SameRank.precedence_eq (h : s.SameRank s') : s'.precedence = s.precedence := by
  obtain ⟨h₁, h₂, h₃, h₄⟩ := h
  funext important i
  simp [precedence, h₁, h₂, h₃, h₄]

/-- Whether two blocks in the same place have leading declarations that are related. -/
def Source.Leads (R : Declaration → Declaration → Prop) (property : String) (s s' : Source) :
    Prop :=
  s.SameRank s' ∧ Option.Rel R (leading? property s.block.declarations)
    (leading? property s'.block.declarations)

instance : Std.Symm Source.Apart := ⟨fun _ _ h => h.imp Ne.symm Ne.symm⟩

theorem Source.eq_of_not_apart {S : List Source} (hS : S.Pairwise Source.Apart) (hs : s ∈ S)
    (ht : t ∈ S) (h : ¬ s.Apart t) : s = t := by
  by_contra hne
  exact h (hS.forall hs ht hne)

theorem exists_sets_iff {S : List Source} : (∃ c ∈ S.flatMap Source.candidates, c.Sets property) ↔
    ∃ s ∈ S, (leading? property s.block.declarations).isSome := by
  constructor
  · rintro ⟨c, hc, hsets⟩
    obtain ⟨s, hs, hc⟩ := List.mem_flatMap.1 hc
    obtain ⟨i, hi, -⟩ := Source.mem_candidates.1 hc
    refine ⟨s, hs, Option.isSome_iff_ne_none.2 fun hnone => ?_⟩
    exact leading?_eq_none.1 hnone _ (List.mem_of_getElem? hi) hsets
  · rintro ⟨s, hs, hl⟩
    obtain ⟨d, hd⟩ := Option.isSome_iff_exists.1 hl
    obtain ⟨i, hi⟩ := Source.isStrongest_of_leading? hd
    exact ⟨_, List.mem_flatMap.2 ⟨s, hs, hi.mem⟩, hi.sets⟩

/-- The strongest candidate of all is the leading declaration of its block. -/
theorem exists_source_of_isStrongest {S : List Source}
    (h : Candidate.IsStrongest (S.flatMap Source.candidates) property c) :
    ∃ s ∈ S, leading? property s.block.declarations = some c.declaration ∧
      ∃ i, c.precedence = s.precedence c.declaration.important i := by
  obtain ⟨s, hs, hc⟩ := List.mem_flatMap.1 h.mem
  obtain ⟨i, hi, hp⟩ := Source.mem_candidates.1 hc
  refine ⟨s, hs, ?_, i, hp⟩
  cases hl : leading? property s.block.declarations with
  | none => exact absurd h.sets (leading?_eq_none.1 hl _ (List.mem_of_getElem? hi))
  | some l =>
    obtain ⟨j, hj⟩ := Source.isStrongest_of_leading? hl
    have hle := h.eq_of_le (List.mem_flatMap.2 ⟨s, hs, hj.mem⟩) hj.sets
    by_cases hcl : c = ⟨l, s.precedence l.important j⟩
    · rw [hcl]
    · rw [← hle (Precedence.le_of_lt (hj.lt c hc h.sets hcl))]

/-- The leading declaration of another block is weaker than the strongest candidate of all. -/
theorem exists_lt_of_isStrongest {S : List Source} {i : Nat} {important : Bool}
    (h : Candidate.IsStrongest (S.flatMap Source.candidates) property c) (hs : s ∈ S)
    (hp : c.precedence = t.precedence important i) (hst : s.Apart t)
    (hl : leading? property s.block.declarations = some d) :
    ∃ j, s.precedence d.important j < c.precedence := by
  obtain ⟨j, hj⟩ := Source.isStrongest_of_leading? hl
  refine ⟨j, h.lt _ (List.mem_flatMap.2 ⟨s, hs, hj.mem⟩) hj.sets ?_⟩
  rintro rfl
  have hinline := congrArg Precedence.inline hp
  have horder := congrArg Precedence.order hp
  exact hst.elim (absurd hinline) (absurd horder)

section Compare

variable {R : Declaration → Declaration → Prop} {S S' : List Source}
  (hR : ∀ d e, R d e → e.important = d.important)
  (hS : S.Pairwise Source.Apart) (hS' : S'.Pairwise Source.Apart)
  (h : List.Forall₂ (Source.Leads R property) S S')
include hR hS hS' h

/-- Where the leading declarations of blocks are related, so are the strongest of all. -/
theorem isStrongest_of_leads
    (hc : Candidate.IsStrongest (S.flatMap Source.candidates) property c)
    (hc' : Candidate.IsStrongest (S'.flatMap Source.candidates) property c') :
    R c.declaration c'.declaration := by
  obtain ⟨s, hs, hl, i, hp⟩ := exists_source_of_isStrongest hc
  obtain ⟨t', ht', hl', i', hp'⟩ := exists_source_of_isStrongest hc'
  obtain ⟨s', hs', hrank, hrel⟩ := exists_of_forall₂ h hs
  obtain ⟨t, ht, hrank', hrel'⟩ := exists_of_forall₂ h.flip ht'
  rw [hl] at hrel
  rw [hl'] at hrel'
  obtain ⟨l, hls, hcl⟩ : ∃ l, leading? property s'.block.declarations = some l ∧
      R c.declaration l := by
    cases hls : leading? property s'.block.declarations <;> simp_all
  obtain ⟨k, hkt, hkc⟩ : ∃ k, leading? property t.block.declarations = some k ∧
      R k c'.declaration := by
    cases hkt : leading? property t.block.declarations <;> simp_all
  by_cases hst : s.Apart t
  · -- in each list the one of the two blocks would be stronger that is weaker in the other
    obtain ⟨j, hj⟩ := exists_lt_of_isStrongest hc ht hp (symm hst) hkt
    have hst' : s'.Apart t' := by
      rw [Source.Apart, hrank.2.1, hrank.2.2.2, hrank'.2.1, hrank'.2.2.2]
      exact hst
    obtain ⟨j', hj'⟩ := exists_lt_of_isStrongest hc' hs' hp' hst' hls
    rw [hp] at hj
    rw [hp', hrank.precedence_eq, hrank'.precedence_eq, hR _ _ hcl, hR _ _ hkc] at hj'
    exact absurd ((symm hst).precedence_lt i' j' hj)
      (Precedence.not_lt_of_le (Precedence.le_of_lt hj'))
  · obtain rfl := Source.eq_of_not_apart hS hs ht hst
    have hst' : ¬ s'.Apart t' := by
      rw [Source.Apart, hrank.2.1, hrank.2.2.2, hrank'.2.1, hrank'.2.2.2]
      exact hst
    obtain rfl := Source.eq_of_not_apart hS' hs' ht' hst'
    rw [hls, Option.some.injEq] at hl'
    exact hl' ▸ hcl

end Compare

theorem pairwise_sources {matched : List MatchedRule}
    (h : matched.Pairwise fun r r' => r.order < r'.order) (inline : Option DeclarationBlock) :
    (sources matched inline).Pairwise Source.Apart := by
  refine List.pairwise_append.2 ⟨?_, ?_, ?_⟩
  · rw [List.pairwise_map]
    exact h.imp fun hlt => .inr hlt.ne
  · cases inline <;> simp
  · intro s hs t ht
    obtain ⟨r, -, rfl⟩ := List.mem_map.1 hs
    obtain ⟨b, -, rfl⟩ := List.mem_map.1 ht
    exact .inl (by simp [Source.ofRule, Source.ofInline])

end Cascade

open Declaration Cascade

variable {matched matched' : List MatchedRule} {inline inline' : Option DeclarationBlock}
  {property : String}

/-- A longhand is settled by the strongest of the candidates that set it. -/
theorem find?_cascade_eq_some_iff (hm : matched.Pairwise fun r r' => r.order < r'.order)
    (v : SpecifiedValue) : (cascade matched inline).find? property = some v ↔
      Shorthand.ofName? property = none ∧ ∃ c, Candidate.IsStrongest
        ((sources matched inline).flatMap Source.candidates) property c ∧
          v = c.declaration.valueFor property := by
  rw [← candidates_eq]
  exact find?_settle_eq_some_iff (List.Perm.refl _) (pairwise_candidates hm inline) property v

theorem exists_isStrongest_of_leading? (hm : matched.Pairwise fun r r' => r.order < r'.order)
    (h : ∃ s ∈ sources matched inline, (leading? property s.block.declarations).isSome) :
    ∃ c, Candidate.IsStrongest ((sources matched inline).flatMap Source.candidates) property c := by
  rw [← exists_sets_iff, ← candidates_eq] at h
  rw [← candidates_eq]
  exact Candidate.exists_isStrongest (pairwise_candidates hm inline) h

theorem exists_leading?_of_leads {R : Declaration → Declaration → Prop} {S S' : List Source}
    (h : List.Forall₂ (Source.Leads R property) S S')
    (hs : ∃ s ∈ S, (leading? property s.block.declarations).isSome) :
    ∃ s ∈ S', (leading? property s.block.declarations).isSome := by
  obtain ⟨s, hs, hl⟩ := hs
  obtain ⟨s', hs', -, hrel⟩ := exists_of_forall₂ h hs
  obtain ⟨d, hd⟩ := Option.isSome_iff_exists.1 hl
  rw [hd] at hrel
  cases hl' : leading? property s'.block.declarations with
  | none => rw [hl'] at hrel; cases hrel
  | some e => exact ⟨s', hs', by rw [hl', Option.isSome_some]⟩

/-- What the cascade settles is the value of the leading declaration of one of the blocks. Where
leading declarations are related, so is what is settled. -/
theorem rel_find?_cascade {R : Declaration → Declaration → Prop}
    (hR : ∀ d e, R d e → e.important = d.important)
    (hm : matched.Pairwise fun r r' => r.order < r'.order)
    (hm' : matched'.Pairwise fun r r' => r.order < r'.order)
    (h : List.Forall₂ (Source.Leads R property) (sources matched inline)
      (sources matched' inline')) :
    Option.Rel (fun v v' => ∃ d d', R d d' ∧ v = d.valueFor property ∧ v' = d'.valueFor property)
      ((cascade matched inline).find? property) ((cascade matched' inline').find? property) := by
  have hflip : List.Forall₂ (Source.Leads (flip R) property) (sources matched' inline')
      (sources matched inline) := by
    refine h.flip.imp fun s' s hs => ⟨?_, ?_⟩
    · obtain ⟨h₁, h₂, h₃, h₄⟩ := hs.1
      exact ⟨h₁.symm, h₂.symm, h₃.symm, h₄.symm⟩
    · generalize leading? property s.block.declarations = l at hs
      generalize leading? property s'.block.declarations = l' at hs
      cases hs.2 with
      | none => exact .none
      | some h => exact .some h
  cases hv : (cascade matched inline).find? property with
  | some v =>
    obtain ⟨hlong, c, hc, rfl⟩ := (find?_cascade_eq_some_iff hm v).1 hv
    obtain ⟨s, hs, hl, -⟩ := exists_source_of_isStrongest hc
    obtain ⟨c', hc'⟩ := exists_isStrongest_of_leading? hm' <|
      exists_leading?_of_leads h ⟨s, hs, by rw [hl, Option.isSome_some]⟩
    rw [(find?_cascade_eq_some_iff hm' _).2 ⟨hlong, c', hc', rfl⟩]
    exact .some ⟨_, _, isStrongest_of_leads hR (pairwise_sources hm inline)
      (pairwise_sources hm' inline') h hc hc', rfl, rfl⟩
  | none =>
    cases hv' : (cascade matched' inline').find? property with
    | none => exact .none
    | some v' =>
      obtain ⟨hlong, c', hc', rfl⟩ := (find?_cascade_eq_some_iff hm' v').1 hv'
      obtain ⟨s, hs, hl, -⟩ := exists_source_of_isStrongest hc'
      obtain ⟨c, hc⟩ := exists_isStrongest_of_leading? hm <|
        exists_leading?_of_leads hflip ⟨s, hs, by rw [hl, Option.isSome_some]⟩
      rw [(find?_cascade_eq_some_iff hm _).2 ⟨hlong, c, hc, rfl⟩] at hv
      cases hv

/-- The `style` attribute alone settles what its leading declarations say. -/
theorem find?_cascade_inline (b : DeclarationBlock) : (cascade [] (some b)).find? property =
    if Shorthand.ofName? property = none then
      (leading? property b.declarations).map (Declaration.valueFor · property)
    else none := by
  have hm : ([] : List MatchedRule).Pairwise fun r r' => r.order < r'.order := List.Pairwise.nil
  refine Option.ext fun v => ?_
  rw [find?_cascade_eq_some_iff hm]
  by_cases hlong : Shorthand.ofName? property = none
  · rw [if_pos hlong, Option.map_eq_some_iff]
    constructor
    · rintro ⟨-, c, hc, rfl⟩
      obtain ⟨s, hs, hl, -⟩ := exists_source_of_isStrongest hc
      obtain rfl : s = .ofInline b := List.mem_singleton.1 hs
      exact ⟨_, hl, rfl⟩
    · rintro ⟨d, hd, rfl⟩
      obtain ⟨i, hi⟩ := Source.isStrongest_of_leading? (s := .ofInline b) hd
      refine ⟨hlong, ⟨d, (Source.ofInline b).precedence d.important i⟩, ?_, rfl⟩
      rw [show (sources [] (some b)).flatMap Source.candidates = (Source.ofInline b).candidates from
        List.flatMap_singleton _ _]
      exact hi
  · simp [hlong]

end WebStyle
