import WebStyle.Proofs.Style.Custom
/-!
Custom properties that lead back to themselves. The search that resolves them ends a value at the
first reference without a text, and keeps what it is done with, so that it does not find all of them:
on each cycle it finds one. It finds all where references have no fallback, and where each property
leads back in one way only.
-/
set_option autoImplicit false

namespace WebStyle
namespace Custom

open Relation Substitution

variable {s s' : Setting} {p p' : Progress} {st : List String} {x y u v name raw : String}
  {R R' : String → Option String}

namespace Setting

/-- Whether the declared value of a property refers to a declared one, in no fallback. -/
def Depends (s : Setting) (x y : String) : Prop :=
  ∃ raw fallback, s.declared.find? x = some raw ∧ some (y, fallback) ∈ references raw ∧
    (s.declared.find? y).isSome

/-- Whether it does so without a fallback, and nothing is inherited instead. -/
def Bare (s : Setting) (x y : String) : Prop :=
  ∃ raw, s.declared.find? x = some raw ∧ some (y, none) ∈ references raw ∧
    (s.declared.find? y).isSome ∧ s.inherited.find? y = none

/-- Whether two properties lead to each other. -/
def Tied (s : Setting) (x y : String) : Prop :=
  ReflTransGen s.Mentions x y ∧ ReflTransGen s.Mentions y x

/-- Whether references of that kind lead to a cycle of such. -/
def IsBare (s : Setting) (x : String) : Prop :=
  ∃ y, ReflTransGen s.Bare x y ∧ TransGen s.Bare y y

/-- Whether each property that is tied to a given one mentions exactly one of those that are, and
its substitution gets there. -/
def IsRing (s : Setting) (f : String → Option String) (x : String) : Prop :=
  ∀ y, s.Tied x y → ∃ raw, s.declared.find? y = some raw ∧
    ∃ next ∈ asked f raw, ∀ z ∈ mentioned raw, s.Tied x z ↔ z = next

theorem Depends.mentions (h : s.Depends x y) : s.Mentions x y := by
  obtain ⟨raw, fallback, hraw, href, -⟩ := h
  exact ⟨raw, hraw, mem_mentioned_of_mem_references href⟩

theorem Bare.depends (h : s.Bare x y) : s.Depends x y := by
  obtain ⟨raw, hraw, href, hy, -⟩ := h
  exact ⟨raw, none, hraw, href, hy⟩

theorem Depends.declared (h : s.Depends x y) : (s.declared.find? x).isSome := by
  obtain ⟨raw, -, hraw, -⟩ := h
  rw [hraw]
  rfl

/-- All on a path of references are declared. -/
theorem declared_of_isChain {ys : List String} (h : (x :: ys ++ [y]).IsChain s.Depends) :
    ∀ z ∈ x :: ys, (s.declared.find? z).isSome := by
  induction ys generalizing x with
  | nil =>
    rintro z hz
    obtain rfl := List.mem_singleton.1 hz
    exact (List.isChain_cons_cons.1 h).1.declared
  | cons u ys ih =>
    obtain ⟨hxu, h⟩ := List.isChain_cons_cons.1 h
    exact List.forall_mem_cons.2 ⟨hxu.declared, ih h⟩

theorem loops_of_depends (h : TransGen s.Depends x x) : s.Loops x :=
  TransGen.mono (fun _ _ => Depends.mentions) x x h

/-- What is between tied properties is tied. -/
theorem Tied.between (h : s.Tied x u) (hu : ReflTransGen s.Mentions u y)
    (hy : ReflTransGen s.Mentions y x) : s.Tied x y := ⟨h.1.trans hu, hy⟩

end Setting

/-! ### What is known in the end -/

namespace Resolved

theorem eq_of_mem (h : Resolved s p R) {q : String × Option String} (hq : q ∈ p.done.entries) :
    R q.1 = q.2 := by
  have hdone := (Table.find?_eq_some_iff h.sound.keys).2 hq
  have := h.declared q.1 (h.sound.declared_of_done hdone)
  exact Option.some.inj (this.symm.trans hdone)

/-- Each declared property was done at some point, for a reason. -/
theorem exists_entry (h : Resolved s p R) (hx : (s.declared.find? x).isSome) :
    ∃ l r, p.done.entries = l ++ (x, R x) :: r ∧ Entry s l x (R x) := by
  obtain ⟨l, r, hl⟩ :=
    List.append_of_mem ((Table.find?_eq_some_iff h.sound.keys).1 (h.declared x hx))
  exact ⟨l, r, hl, h.sound.history l x _ r hl⟩

/-- A property either leads back to itself and has what it inherits, or has the value that its text
gives with the values of all. -/
theorem looped_or_eq (h : Resolved s p R) (hraw : s.declared.find? x = some raw) :
    s.Loops x ∧ R x = s.inherited.find? x ∨ R x = s.valueWith x raw R := by
  obtain ⟨l, r, hl, hentry⟩ := h.exists_entry (x := x) (by rw [hraw]; rfl)
  cases hentry with
  | looped hx hv => exact .inl ⟨hx, hv⟩
  | @computed raw' asks hraw' hdone hv hcovers =>
    obtain rfl := Option.some.inj (hraw.symm.trans hraw')
    refine .inr (hv R fun q hq => ?_)
    rcases hdone q hq with hq | ⟨hq, ha⟩
    · exact h.eq_of_mem (hl ▸ List.mem_append_left _ hq)
    · rw [h.undeclared q.1 hq, ha]

/-- When a property was done. -/
def place (p : Progress) (x : String) : Nat := p.done.keys.idxOf x

/-- A property with another value than it inherits has used the values of all references, which were
there before. -/
theorem of_ne_inherited (h : Resolved s p R) (hraw : s.declared.find? x = some raw)
    (hne : R x ≠ s.inherited.find? x) :
    (∀ name fallback, some (name, fallback) ∈ references raw → (s.declared.find? name).isSome →
      place p name < place p x) ∧
    ∀ name, some (name, none) ∈ references raw → (R name).isSome := by
  obtain ⟨l, r, hl, hentry⟩ := h.exists_entry (x := x) (by rw [hraw]; rfl)
  cases hentry with
  | looped hx hv => exact absurd hv hne
  | @computed raw' asks hraw' hdone hv hcovers =>
    obtain rfl := Option.some.inj (hraw.symm.trans hraw')
    have hsuccess : (R x != s.inherited.find? x) = true := bne_iff_ne.2 hne
    have hkeys : p.done.keys = l.map Prod.fst ++ x :: r.map Prod.fst := by simp [Table.keys, hl]
    have hnodup := h.sound.keys
    rw [hkeys] at hnodup
    refine ⟨fun name fallback href hname => ?_, fun name href => ?_⟩
    · obtain ⟨q, hq, rfl⟩ := List.mem_map.1 (hcovers.complete hsuccess name fallback href)
      rcases hdone q hq with hq | ⟨hq, -⟩
      · have hx : x ∉ l.map Prod.fst := fun hx =>
          (List.nodup_append.1 hnodup).2.2 x hx x List.mem_cons_self rfl
        have hq := List.mem_map_of_mem (f := Prod.fst) hq
        rw [place, place, hkeys, List.idxOf_append_of_mem hq, List.idxOf_append_of_notMem hx,
          List.idxOf_cons_self, Nat.add_zero]
        exact List.idxOf_lt_length_of_mem hq
      · simp [hq] at hname
    · obtain ⟨v, hv⟩ := hcovers.answered hsuccess name href
      rcases hdone _ hv with hv | ⟨hname, ha⟩
      · rw [show R name = some v from h.eq_of_mem (hl ▸ List.mem_append_left _ hv)]
        rfl
      · rw [h.undeclared name hname, ← ha]
        rfl

/-- Properties with other values than they inherit are not on a cycle. -/
theorem not_transGen_depends (h : Resolved s p R) (x : String) :
    ¬ TransGen (fun y z => s.Depends y z ∧ R y ≠ s.inherited.find? y) x x := by
  have hstep : ∀ y z, s.Depends y z ∧ R y ≠ s.inherited.find? y → place p z < place p y := by
    rintro y z ⟨⟨raw, fallback, hraw, href, hz⟩, hne⟩
    exact (h.of_ne_inherited hraw hne).1 z fallback href hz
  have hlt : ∀ y z, TransGen (fun y z => s.Depends y z ∧ R y ≠ s.inherited.find? y) y z →
      place p z < place p y := by
    intro y z hyz
    induction hyz with
    | single hyz => exact hstep _ _ hyz
    | tail _ hyz ih => exact (hstep _ _ hyz).trans ih
  exact fun hx => lt_irrefl _ (hlt x x hx)

/-- On each cycle some property has what it inherits. -/
theorem exists_mem_eq_inherited (h : Resolved s p R) {ys : List String}
    (hcycle : (x :: ys ++ [x]).IsChain s.Depends) : ∃ y ∈ x :: ys, R y = s.inherited.find? y := by
  by_contra hno
  have hne : ∀ y ∈ x :: ys, R y ≠ s.inherited.find? y := fun y hy heq => hno ⟨y, hy, heq⟩
  have hpath : ∀ {y ys}, (y :: ys ++ [x]).IsChain s.Depends →
      (∀ z ∈ y :: ys, R z ≠ s.inherited.find? z) →
      TransGen (fun y z => s.Depends y z ∧ R y ≠ s.inherited.find? y) y x := by
    intro y ys hchain hne
    induction ys generalizing y with
    | nil =>
      exact .single ⟨(List.isChain_cons_cons.1 hchain).1, hne y List.mem_cons_self⟩
    | cons z ys ih =>
      obtain ⟨hyz, hchain⟩ := List.isChain_cons_cons.1 hchain
      obtain ⟨hy, hne⟩ := List.forall_mem_cons.1 hne
      exact .head ⟨hyz, hy⟩ (ih hchain hne)
  exact h.not_transGen_depends x (hpath hcycle hne)

/-- What leads to a cycle without fallbacks, and without anything inherited on the way, has what it
inherits. -/
theorem eq_inherited_of_isBare (h : Resolved s p R) (hx : s.IsBare x) :
    R x = s.inherited.find? x := by
  by_contra hne
  obtain ⟨y, hxy, hyy⟩ := hx
  -- a value that is not inherited needs one for each reference
  have hnext : ∀ {y z}, s.Bare y z → R y ≠ s.inherited.find? y → R z ≠ s.inherited.find? z := by
    rintro y z ⟨raw, hraw, href, -, hnone⟩ hy hz
    have := (h.of_ne_inherited hraw hy).2 z href
    rw [hz, hnone] at this
    cases this
  have hy : R y ≠ s.inherited.find? y := by
    clear hyy
    induction hxy with
    | refl => exact hne
    | tail _ hyz ih => exact hnext hyz ih
  have hall : ∀ z, TransGen s.Bare y z →
      TransGen (fun y z => s.Depends y z ∧ R y ≠ s.inherited.find? y) y z ∧
        R z ≠ s.inherited.find? z := by
    intro z hz
    induction hz with
    | single hz => exact ⟨.single ⟨hz.depends, hy⟩, hnext hz hy⟩
    | tail _ hz ih => exact ⟨ih.1.tail ⟨hz.depends, ih.2⟩, hnext hz ih.2⟩
  exact h.not_transGen_depends y (hall y hyy).1

end Resolved

/-! ### Rings -/

section Ring

/-- Whether nothing of a ring is done. -/
def Untouched (s : Setting) (x : String) (p : Progress) : Prop :=
  ∀ u, s.Tied x u → p.done.find? u = none

/-- Whether all of a ring is done, with what it inherits. -/
def Closed (s : Setting) (x : String) (p : Progress) : Prop :=
  ∀ u, s.Tied x u → p.done.find? u = some (s.inherited.find? u)

/-- Whether what is known is right. -/
def Fits (R : String → Option String) (p : Progress) : Prop :=
  ∀ y a, p.done.find? y = some a → R y = a

theorem Fits.of_grows (h : Fits R p') (hg : p.Grows p') : Fits R p :=
  fun y a hy => h y a (hg.done y a hy)

theorem Closed.of_grows (h : Closed s x p) (hg : p.Grows p') : Closed s x p' :=
  fun u hu => hg.done u _ (h u hu)

/-- What waits between a property and itself mentions one of what waits there. -/
theorem exists_mentions_of_mem_upTo (h : (y :: st).IsChain fun y x => s.Mentions x y) :
    ∀ u ∈ upTo name st, ∃ v ∈ y :: upTo name st, s.Mentions u v := by
  induction st generalizing y with
  | nil => simp [upTo]
  | cons z st ih =>
    obtain ⟨hz, h⟩ := List.isChain_cons_cons.1 h
    intro u hu
    rw [upTo] at hu ⊢
    split at hu
    · obtain rfl := List.mem_singleton.1 hu
      exact ⟨y, List.mem_cons_self, hz⟩
    · rename_i hname
      rw [if_neg hname]
      rcases List.mem_cons.1 hu with rfl | hu
      · exact ⟨y, List.mem_cons_self, hz⟩
      · obtain ⟨v, hv, huv⟩ := ih h u hu
        exact ⟨v, List.mem_cons_of_mem _ hv, huv⟩

variable (hring : s.IsRing R x)
include hring

/-- A property of a ring that is found on the stack has the whole ring above it. -/
theorem mem_upTo_of_tied (h : (name :: st).IsChain fun y x => s.Mentions x y) (hst : name ∈ st)
    (hname : s.Tied x name) (hu : s.Tied x u) : u ∈ upTo name st := by
  have hpath : ReflTransGen s.Mentions name u := hname.2.trans hu.1
  induction hpath with
  | refl => exact mem_upTo hst
  | @tail b c hb hc ih =>
    have hbx : s.Tied x b := hname.between hb (.head hc hu.2)
    have hmem := ih hbx
    -- the next one above is tied, as all of them are, so that it is the one that is mentioned
    obtain ⟨v, hv, hbv⟩ := exists_mentions_of_mem_upTo h b hmem
    have hv : v ∈ upTo name st := by
      rcases List.mem_cons.1 hv with rfl | hv
      · exact mem_upTo hst
      · exact hv
    have hvx : s.Tied x v := hname.between (reflTransGen_of_mem_upTo h.tail hst v hv)
      ((transGen_of_isChain h v (upTo_subset _ _ hv)).to_reflTransGen.trans hname.2)
    obtain ⟨raw, hraw, next, -, hnext⟩ := hring b hbx
    have heq : ∀ {w}, s.Mentions b w → s.Tied x w → w = next := by
      rintro w ⟨raw', hraw', hw⟩ hwx
      obtain rfl := Option.some.inj (hraw.symm.trans hraw')
      exact (hnext w hw).1 hwx
    rw [heq hc hu, ← heq hbv hvx]
    exact hv

variable (hR : ∀ y, s.declared.find? y = none → R y = s.inherited.find? y)
include hR

omit hring in
/-- What is looked up for a property of a ring, but is not in it, has its right value. -/
theorem eq_of_answered {q : String × Option String} (hs : Sound s (name :: st) p)
    (hfits : Fits R p) (hname : s.Tied x name) (hq : s.Mentions name q.1) (hqx : ¬ s.Tied x q.1)
    (h : Answered s (name :: st) p q.1 q.2) : R q.1 = q.2 := by
  cases h with
  | done h => exact hfits q.1 q.2 h
  | undeclared h ha => rw [hR q.1 h, ha]
  | waiting h ha hc =>
    refine absurd ?_ hqx
    rcases List.mem_cons.1 h with heq | h
    · rwa [heq]
    · exact hname.between (.single hq)
        ((transGen_of_isChain hs.chain q.1 h).to_reflTransGen.trans hname.2)

/-- The lookups for a property of a ring come to another of it, after some outside of it. -/
theorem exists_split_of_ring {fuel : Nat} {l : List (String × Option String)}
    {run : Option String × Progress} (hraw : s.declared.find? name = some raw)
    (h : Opened s fuel st name raw p l run) (hvisits : Visits s (name :: st) p l run.2)
    (hname : s.Tied x name) (hfits : Fits R run.2) :
    ∃ l₁ q l₂, l = l₁ ++ q :: l₂ ∧ s.Tied x q.1 ∧ ∀ r ∈ l₁, ¬ s.Tied x r.1 := by
  classical
  cases hfind : l.find? fun q => decide (s.Tied x q.1) with
  | some q =>
    obtain ⟨hq, l₁, l₂, hl, hl₁⟩ := List.find?_eq_some_iff_append.1 hfind
    exact ⟨l₁, q, l₂, hl, by simpa using hq, fun r hr => by simpa using hl₁ r hr⟩
  | none =>
    have hno : ∀ q ∈ l, ¬ s.Tied x q.1 := by simpa using hfind
    have heq := h.asked R fun q hq => eq_of_answered hR hvisits.sound hfits hname
      (h.mentions q hq name rfl) (hno q hq) (hvisits.answered q hq)
    obtain ⟨raw', hraw', next, hasked, hnext⟩ := hring name hname
    obtain rfl := Option.some.inj (hraw.symm.trans hraw')
    have hmem := (hnext next (asked_subset R raw hasked)).2 rfl
    obtain ⟨q, hq, rfl⟩ := List.mem_map.1 (heq ▸ hasked)
    exact absurd hmem (hno q hq)

omit hring hR in
/-- Lookups for a property of a ring that are outside of it do not lead back into it. -/
theorem Untouched.of_visits {l : List (String × Option String)} (hp : Untouched s x p)
    (hname : s.Tied x name) (hvisits : Visits s (name :: st) p l p')
    (hl : ∀ q ∈ l, s.Mentions name q.1 ∧ ¬ s.Tied x q.1) : Untouched s x p' := by
  intro u hu
  by_contra hdone
  obtain ⟨q, hq, hqu⟩ := hvisits.frame u (hp u hu) (Option.isSome_iff_ne_none.2 hdone)
  exact (hl q hq).2 (hname.between (.single (hl q hq).1) (hqu.trans hu.2))

/-- The first lookup in a ring goes around it: all of it is found on a cycle, and is done but for
what waits. -/
theorem closed_valueM {fuel : Nat} (h : Sound s st p)
    (hroom : s.declared.size < fuel + st.length) (hhead : ∀ y ∈ st.head?, s.Mentions y name)
    (hname : s.Tied x name) (hp : Untouched s x p)
    (hfits : Fits R ((valueM s fuel st name).run p).2) (hu : s.Tied x u) :
    u ∈ ((valueM s fuel st name).run p).2.cyclic ∧ (u ∈ st ∨
      ((valueM s fuel st name).run p).2.done.find? u = some (s.inherited.find? u)) := by
  induction fuel generalizing st p name u with
  | zero =>
    have := h.length_le
    omega
  | succ fuel ih =>
    obtain ⟨raw, hraw, -⟩ := hring name hname
    by_cases hst : name ∈ st
    · have hchain : (name :: st).IsChain fun y x => s.Mentions x y := by
        cases st with
        | nil => exact .singleton name
        | cons y st => exact List.isChain_cons_cons.2 ⟨hhead y rfl, h.chain⟩
      have hmem := mem_upTo_of_tied hring hchain hst hname hu
      rw [run_valueM_of_waiting (hp name hname) hraw hst]
      exact ⟨List.mem_append_left _ hmem, .inl (upTo_subset _ _ hmem)⟩
    · obtain ⟨l, run, hrun, hopened⟩ := exists_opened fuel (hp name hname) hraw hst
      rw [hrun] at hfits ⊢
      have hpush := h.push (hp name hname) hst (by rw [hraw]; rfl) hhead
      have hroom' : s.declared.size < fuel + (name :: st).length := by
        simp only [List.length_cons]
        omega
      have hvisits := hpush.visits hroom' hopened.asks hopened.mentions
      have hwaiting := hvisits.sound.waiting name List.mem_cons_self
      have hfits' : Fits R run.2 := hfits.of_grows (.insert hwaiting.2 _)
      obtain ⟨l₁, q, l₂, rfl, hq, hl₁⟩ :=
        exists_split_of_ring hring hR hraw hopened hvisits hname hfits'
      obtain ⟨hmentions₁, hmentions₂⟩ := List.forall_mem_append.1 hopened.mentions
      -- three parts: what is looked up before, the ring, and what is looked up after
      obtain ⟨p₁, hasks₁, hasks₂⟩ := hopened.asks.split
      have hvisits₁ := hpush.visits hroom' hasks₁ hmentions₁
      have hp₁ := hp.of_visits hname hvisits₁ fun r hr => ⟨hmentions₁ r hr name rfl, hl₁ r hr⟩
      cases hasks₂ with
      | cons name' hasks₂ =>
        obtain ⟨hmention, hmentions₂⟩ := List.forall_mem_cons.1 hmentions₂
        have hvisit := visit_valueM hvisits₁.sound hroom' hmention
        have hvisits₂ := hvisit.sound.visits hroom' hasks₂ hmentions₂
        have hih : ∀ {u}, s.Tied x u → _ := fun hu =>
          ih hvisits₁.sound hroom' hmention hq hp₁ (hfits'.of_grows hvisits₂.grows) hu
        have hcyclic : name ∈ run.2.cyclic := hvisits₂.grows.cyclic (hih hname).1
        refine ⟨hvisits₂.grows.cyclic (hih hu).1, ?_⟩
        rw [finish, if_pos (List.contains_iff_mem.2 hcyclic), Table.find?_insert]
        by_cases heq : name = u
        · rw [if_pos heq, heq]
          exact .inr rfl
        · rw [if_neg heq]
          refine (hih hu).2.imp (fun hmem => ?_) fun hdone => hvisits₂.grows.done _ _ hdone
          exact (List.mem_cons.1 hmem).resolve_left (Ne.symm heq)

omit hring hR in
theorem untouched_or_closed_of_asks {fuel : Nat} {l : List (String × Option String)}
    (hroom : s.declared.size < fuel + st.length)
    (hstep : ∀ p name, Sound s st p → (∀ y ∈ st.head?, s.Mentions y name) → Untouched s x p →
      Fits R ((valueM s fuel st name).run p).2 →
      Untouched s x ((valueM s fuel st name).run p).2 ∨
        Closed s x ((valueM s fuel st name).run p).2)
    (hasks : Asks (valueM s fuel st) p l p') (h : Sound s st p)
    (hl : ∀ q ∈ l, ∀ y ∈ st.head?, s.Mentions y q.1) (hp : Untouched s x p) (hfits : Fits R p') :
    Untouched s x p' ∨ Closed s x p' := by
  induction hasks with
  | nil => exact .inl hp
  | @cons p p' l name hasks ih =>
    obtain ⟨hname, hl⟩ := List.forall_mem_cons.1 hl
    have hvisit := visit_valueM h hroom hname
    have hvisits := hvisit.sound.visits hroom hasks hl
    rcases hstep p name h hname hp (hfits.of_grows hvisits.grows) with hp | hp
    · exact ih hvisit.sound hl hp hfits
    · exact .inr (hp.of_grows hvisits.grows)

/-- A ring is done at once. -/
theorem untouched_or_closed_valueM {fuel : Nat} (h : Sound s st p)
    (hroom : s.declared.size < fuel + st.length) (hhead : ∀ y ∈ st.head?, s.Mentions y name)
    (hst : ∀ y ∈ st, ¬ s.Tied x y) (hp : Untouched s x p)
    (hfits : Fits R ((valueM s fuel st name).run p).2) :
    Untouched s x ((valueM s fuel st name).run p).2 ∨
      Closed s x ((valueM s fuel st name).run p).2 := by
  induction fuel generalizing st p name with
  | zero =>
    have := h.length_le
    omega
  | succ fuel ih =>
    by_cases hname : s.Tied x name
    · refine .inr fun u hu => ?_
      exact (closed_valueM hring hR h hroom hhead hname hp hfits hu).2.resolve_left fun hmem =>
        hst u hmem hu
    cases hdone : p.done.find? name with
    | some a =>
      rw [run_valueM_of_done hdone]
      exact .inl hp
    | none =>
      cases hraw : s.declared.find? name with
      | none =>
        rw [run_valueM_of_undeclared hdone hraw]
        exact .inl hp
      | some raw =>
        by_cases hmem : name ∈ st
        · rw [run_valueM_of_waiting hdone hraw hmem]
          exact .inl hp
        · obtain ⟨l, run, hrun, hopened⟩ := exists_opened fuel hdone hraw hmem
          rw [hrun] at hfits ⊢
          have hpush := h.push hdone hmem (by rw [hraw]; rfl) hhead
          have hroom' : s.declared.size < fuel + (name :: st).length := by
            simp only [List.length_cons]
            omega
          have hvisits := hpush.visits hroom' hopened.asks hopened.mentions
          have hwaiting := hvisits.sound.waiting name List.mem_cons_self
          have hlookups := untouched_or_closed_of_asks hroom' (fun p y hs hy hp hf =>
            ih hs hroom' hy (List.forall_mem_cons.2 ⟨hname, hst⟩) hp hf) hopened.asks hpush
            hopened.mentions hp (hfits.of_grows (.insert hwaiting.2 _))
          have hfinish : ∀ u, s.Tied x u →
              (finish s name raw run).2.done.find? u = run.2.done.find? u := by
            intro u hu
            have hne : name ≠ u := fun heq => hname (heq ▸ hu)
            rw [finish, Table.find?_insert, if_neg hne]
          refine hlookups.imp (fun hp u hu => ?_) fun hp u hu => ?_
          · rw [hfinish u hu, hp u hu]
          · rw [hfinish u hu, hp u hu]

omit hR in
/-- Where each property leads back in one way only, and the substitutions of their values get there,
all have what they inherit. -/
theorem Resolved.eq_inherited_of_ring {l : List (String × Option String)}
    (h : Resolved s p R)
    (hasks : Asks (valueM s (s.declared.size + 1) []) ⟨.empty, []⟩ l p) (hx : s.Loops x) :
    R x = s.inherited.find? x := by
  have hdone := h.declared x hx.declared
  have hfits : Fits R p := fun y a hy => by
    have := h.declared y (h.sound.declared_of_done hy)
    exact Option.some.inj (this.symm.trans hy)
  have hall := untouched_or_closed_of_asks (by simp) (fun _ _ hs hy hp hf =>
    untouched_or_closed_valueM hring h.undeclared hs (by simp) hy (by simp) hp hf) hasks
    (sound_start s) (by simp) (fun _ _ => rfl) hfits
  rcases hall with hp | hp
  · rw [hp x ⟨.refl, .refl⟩] at hdone
    cases hdone
  · exact Option.some.inj (hdone.symm.trans (hp x ⟨.refl, .refl⟩))

end Ring

end Custom
end WebStyle
