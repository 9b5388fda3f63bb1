import Mathlib.Data.List.Chain
import Mathlib.Data.List.Perm.Subperm
import Mathlib.Logic.Relation
import WebStyle.Proofs.Style.References
import WebStyle.Style.Custom
/-!
How the custom properties of an element are resolved. The search goes down along references; what it
is done with stays, what waits on the stack leads to what is being looked up, and what was found on
a cycle leads back to itself.
-/
set_option autoImplicit false

namespace WebStyle

/-- A new key goes to the end. -/
theorem Table.entries_insert_of_find?_eq_none {κ α : Type} [DecidableEq κ] {t : Table κ α} {k : κ}
    (h : t.find? k = none) (v : α) : (t.insert k v).entries = t.entries ++ [(k, v)] := by
  obtain ⟨l⟩ := t
  rw [Table.find?_eq_none_iff, Table.keys] at h
  simp only [Table.insert]
  induction l with
  | nil => rfl
  | cons q l ih =>
    obtain ⟨hq, hl⟩ := not_or.1 (List.mem_cons.not.1 h)
    rw [Table.put, if_neg (Ne.symm hq), ih hl]
    rfl

namespace Custom

open Relation Substitution

variable {s : Setting} {p p' p'' : Progress} {st : List String} {x y z name raw : String}
  {a v : Option String}

/-! ### What refers to what -/

/-- Whether a value is one of the keywords that all properties know. -/
def isWide (raw : String) : Bool :=
  ["initial", "inherit", "unset", "revert"].contains (Text.lower (Text.trim raw))

theorem references_of_isWide (h : isWide raw) : references raw = [] := by
  refine references_of_keyword rfl ?_
  simp only [isWide, List.contains_iff_mem, List.mem_cons, List.not_mem_nil, or_false] at h
  rcases h with h | h | h | h <;> rw [h] <;> decide

theorem mentioned_of_isWide (h : isWide raw) : mentioned raw = [] := by
  rw [mentioned, mentionedFuel, references_of_isWide h]
  rfl

theorem asked_of_isWide (h : isWide raw) (f : String → Option String) : asked f raw = [] :=
  List.eq_nil_of_subset_nil (mentioned_of_isWide h ▸ asked_subset f raw)

namespace Setting

/-- Whether the declared value of a property mentions a name, be it in a fallback. -/
def Mentions (s : Setting) (x y : String) : Prop :=
  ∃ raw, s.declared.find? x = some raw ∧ y ∈ mentioned raw

/-- Whether a property leads back to itself. -/
def Loops (s : Setting) (x : String) : Prop := TransGen s.Mentions x x

theorem Loops.declared (h : s.Loops x) : (s.declared.find? x).isSome := by
  obtain ⟨y, ⟨raw, hraw, -⟩, -⟩ := TransGen.head'_iff.1 h
  rw [hraw]
  rfl

/-- What a property amounts to that is not found on a cycle, with the substitution of its value if
there is one. -/
def settledValue (s : Setting) (x raw : String) (substituted : Option String) : Option String :=
  if Text.lower (Text.trim raw) == "initial" then none
  else substituted.or (s.inherited.find? x)

/-- What a property amounts to, given the values of others. -/
def valueWith (s : Setting) (x raw : String) (f : String → Option String) : Option String :=
  s.settledValue x raw (if isWide raw then none else substitute? f raw)

end Setting

/-! ### The stack -/

/-- What waits leads to what is looked up. -/
theorem transGen_of_isChain (h : (y :: st).IsChain fun y x => s.Mentions x y) :
    ∀ x ∈ st, TransGen s.Mentions x y := by
  induction st generalizing y with
  | nil => simp
  | cons z st ih =>
    obtain ⟨hz, h⟩ := List.isChain_cons_cons.1 h
    rintro x hx
    rcases List.mem_cons.1 hx with rfl | hx
    · exact .single hz
    · exact (ih h x hx).tail hz

theorem upTo_subset (name : String) (st : List String) : upTo name st ⊆ st := by
  induction st with
  | nil => exact List.Subset.refl _
  | cons z st ih =>
    rw [upTo]
    split
    · exact List.cons_subset_cons _ (List.nil_subset _)
    · exact List.cons_subset_cons _ ih

theorem mem_upTo (h : name ∈ st) : name ∈ upTo name st := by
  induction st with
  | nil => cases h
  | cons z st ih =>
    rw [upTo]
    split
    · rename_i hz
      simp_all
    · rename_i hz
      rcases List.mem_cons.1 h with rfl | h
      · simp at hz
      · exact List.mem_cons_of_mem _ (ih h)

/-- What is looked up leads to all that wait above it. -/
theorem reflTransGen_of_mem_upTo (h : st.IsChain fun y x => s.Mentions x y) (hname : name ∈ st) :
    ∀ x ∈ upTo name st, ReflTransGen s.Mentions name x := by
  induction st with
  | nil => cases hname
  | cons z st ih =>
    intro x hx
    rw [upTo] at hx
    split at hx
    · rename_i hz
      obtain rfl := List.mem_singleton.1 hx
      rw [beq_iff_eq.1 hz]
    · rename_i hz
      have hst : name ∈ st := (List.mem_cons.1 hname).resolve_left fun heq => hz (by simp [heq])
      rcases List.mem_cons.1 hx with rfl | hx
      · exact (transGen_of_isChain h name hst).to_reflTransGen
      · exact ih h.tail hst x hx

/-- All that wait above what is looked up lead back to themselves. -/
theorem loops_of_mem_upTo (h : (name :: st).IsChain fun y x => s.Mentions x y)
    (hname : name ∈ st) : ∀ x ∈ upTo name st, s.Loops x := fun x hx =>
  TransGen.trans_left (transGen_of_isChain h x (upTo_subset name st hx))
    (reflTransGen_of_mem_upTo h.tail hname x hx)

/-! ### What is known -/

/-- Whether nothing is lost of what is known. -/
structure Progress.Grows (p p' : Progress) : Prop where
  done : ∀ y a, p.done.find? y = some a → p'.done.find? y = some a
  cyclic : p.cyclic ⊆ p'.cyclic

theorem Progress.Grows.refl (p : Progress) : p.Grows p := ⟨fun _ _ h => h, fun _ h => h⟩

theorem Progress.Grows.trans (h : p.Grows p') (h' : p'.Grows p'') : p.Grows p'' :=
  ⟨fun y a hy => h'.done y a (h.done y a hy), fun _ hy => h'.cyclic (h.cyclic hy)⟩

theorem Progress.Grows.insert (h : p.done.find? x = none) (v : Option String) :
    p.Grows { p with done := p.done.insert x v } := by
  refine ⟨fun y a hy => ?_, fun _ h => h⟩
  have hne : x ≠ y := by
    rintro rfl
    rw [h] at hy
    cases hy
  rw [Table.find?_insert, if_neg hne, hy]

/-- Why a lookup has the answer that it has, with a stack of properties that wait. -/
inductive Answered (s : Setting) (st : List String) (p : Progress) (y : String)
    (a : Option String) : Prop where
  | done (h : p.done.find? y = some a)
  | undeclared (h : s.declared.find? y = none) (ha : a = s.inherited.find? y)
  | waiting (h : y ∈ st) (ha : a = none) (hc : upTo y st ⊆ p.cyclic)

theorem Answered.mono (h : Answered s st p y a) (hg : p.Grows p') : Answered s st p' y a := by
  cases h with
  | done h => exact .done (hg.done y a h)
  | undeclared h ha => exact .undeclared h ha
  | waiting h ha hc => exact .waiting h ha fun z hz => hg.cyclic (hc hz)

/-- Why a property is done with a value: it leads back to itself and has what it inherits, or its
value was substituted with the answers of lookups, all of which were done before. -/
inductive Entry (s : Setting) (earlier : List (String × Option String)) (x : String)
    (v : Option String) : Prop where
  | looped (h : s.Loops x) (hv : v = s.inherited.find? x)
  | computed {raw : String} {l : List (String × Option String)}
    (hraw : s.declared.find? x = some raw)
    (hdone : ∀ q ∈ l, q ∈ earlier ∨ s.declared.find? q.1 = none ∧ q.2 = s.inherited.find? q.1)
    (hv : ∀ f : String → Option String, (∀ q ∈ l, f q.1 = q.2) → v = s.valueWith x raw f)
    (hcovers : Covers (references raw) (v != s.inherited.find? x) l)

theorem Entry.declared {earlier : List (String × Option String)} (h : Entry s earlier x v) :
    (s.declared.find? x).isSome := by
  cases h with
  | looped h hv => exact h.declared
  | computed hraw => rw [hraw]; rfl

/-- What holds all along the search. -/
structure Sound (s : Setting) (st : List String) (p : Progress) : Prop where
  nodup : st.Nodup
  waiting : ∀ y ∈ st, (s.declared.find? y).isSome ∧ p.done.find? y = none
  chain : st.IsChain fun y x => s.Mentions x y
  keys : p.done.keys.Nodup
  cyclic : ∀ y ∈ p.cyclic, s.Loops y
  history : ∀ l y a r, p.done.entries = l ++ (y, a) :: r → Entry s l y a

namespace Sound

theorem declared_of_done (h : Sound s st p) (hy : p.done.find? y = some a) :
    (s.declared.find? y).isSome := by
  obtain ⟨l, r, hl⟩ := List.append_of_mem ((Table.find?_eq_some_iff h.keys).1 hy)
  exact (h.history l y a r hl).declared

/-- The stack has no room beyond what is declared. -/
theorem length_le (h : Sound s st p) : st.length ≤ s.declared.size := by
  have hsubset : st ⊆ s.declared.keys := fun y hy => by
    by_contra hno
    have := (h.waiting y hy).1
    rw [Table.find?_eq_none_iff.2 hno] at this
    cases this
  simpa [Table.size, Table.keys] using (List.Nodup.subperm h.nodup hsubset).length_le

theorem push (h : Sound s st p) (hdone : p.done.find? x = none) (hst : x ∉ st)
    (hx : (s.declared.find? x).isSome) (hhead : ∀ y ∈ st.head?, s.Mentions y x) :
    Sound s (x :: st) p where
  nodup := List.nodup_cons.2 ⟨hst, h.nodup⟩
  waiting := List.forall_mem_cons.2 ⟨⟨hx, hdone⟩, h.waiting⟩
  chain := by
    cases st with
    | nil => exact .singleton x
    | cons y st => exact List.isChain_cons_cons.2 ⟨hhead y rfl, h.chain⟩
  keys := h.keys
  cyclic := h.cyclic
  history := h.history

/-- Finding a property on the stack. -/
theorem close (h : Sound s st p) (hname : name ∈ st) (hhead : ∀ y ∈ st.head?, s.Mentions y name) :
    Sound s st { p with cyclic := upTo name st ++ p.cyclic } where
  nodup := h.nodup
  waiting := h.waiting
  chain := h.chain
  keys := h.keys
  cyclic := by
    have hchain : (name :: st).IsChain fun y x => s.Mentions x y := by
      cases st with
      | nil => exact .singleton name
      | cons y st => exact List.isChain_cons_cons.2 ⟨hhead y rfl, h.chain⟩
    rintro y hy
    rcases List.mem_append.1 hy with hy | hy
    · exact loops_of_mem_upTo hchain hname y hy
    · exact h.cyclic y hy
  history := h.history

/-- Being done with the property on top of the stack. -/
theorem pop (h : Sound s (x :: st) p) (hentry : Entry s p.done.entries x v) :
    Sound s st { p with done := p.done.insert x v } where
  nodup := (List.nodup_cons.1 h.nodup).2
  waiting y hy := by
    have hne : x ≠ y := fun heq => (List.nodup_cons.1 h.nodup).1 (heq ▸ hy)
    obtain ⟨hdeclared, hdone⟩ := h.waiting y (List.mem_cons_of_mem _ hy)
    exact ⟨hdeclared, by rw [Table.find?_insert, if_neg hne, hdone]⟩
  chain := h.chain.tail
  keys := Table.nodup_keys_insert h.keys x v
  cyclic := h.cyclic
  history l y a r hl := by
    rw [Table.entries_insert_of_find?_eq_none (h.waiting x List.mem_cons_self).2] at hl
    rcases List.eq_nil_or_concat r with rfl | ⟨r, q, rfl⟩
    · obtain ⟨rfl, heq⟩ := List.append_inj' hl rfl
      obtain ⟨rfl, rfl⟩ := Prod.mk.inj (List.singleton_inj.1 heq)
      exact hentry
    · have hsplit : p.done.entries ++ [(x, v)] = (l ++ (y, a) :: r) ++ [q] := by simpa using hl
      exact h.history l y a r (List.append_inj' hsplit rfl).1

end Sound

/-! ### One lookup -/

theorem run_valueM_of_done {fuel : Nat} (h : p.done.find? name = some a) :
    (valueM s (fuel + 1) st name).run p = (a, p) := by
  simp only [valueM, StateT.run_bind, StateT.run_get, pure_bind, h]
  rfl

theorem run_valueM_of_undeclared {fuel : Nat} (hdone : p.done.find? name = none)
    (h : s.declared.find? name = none) :
    (valueM s (fuel + 1) st name).run p = (s.inherited.find? name, p) := by
  simp only [valueM, StateT.run_bind, StateT.run_get, pure_bind, hdone, h]
  rfl

theorem run_valueM_of_waiting {fuel : Nat} (hdone : p.done.find? name = none)
    (hraw : s.declared.find? name = some raw) (h : name ∈ st) :
    (valueM s (fuel + 1) st name).run p =
      (none, { p with cyclic := upTo name st ++ p.cyclic }) := by
  simp only [valueM, StateT.run_bind, StateT.run_get, pure_bind, hdone, hraw,
    List.contains_iff_mem.2 h]
  rfl

/-- The substitution of a value, unless it is a keyword, with the property on the stack. -/
def substitutedM (s : Setting) (fuel : Nat) (st : List String) (name raw : String) :
    StateM Progress (Option String) :=
  if isWide raw then pure none else substituteM (valueM s fuel (name :: st)) raw

/-- Being done with a property, after the lookups for it. -/
def finish (s : Setting) (name raw : String) (run : Option String × Progress) :
    Option String × Progress :=
  let value := if run.2.cyclic.contains name then s.inherited.find? name
    else s.settledValue name raw run.1
  (value, { run.2 with done := run.2.done.insert name value })

/-- The lookups for a property, which waits for them, and what they have to do with its value. -/
structure Opened (s : Setting) (fuel : Nat) (st : List String) (name raw : String) (p : Progress)
    (l : List (String × Option String)) (run : Option String × Progress) : Prop where
  asks : Asks (valueM s fuel (name :: st)) p l run.2
  mentions : ∀ q ∈ l, ∀ y ∈ (name :: st).head?, s.Mentions y q.1
  value : ∀ f : String → Option String, (∀ q ∈ l, f q.1 = q.2) →
    s.settledValue name raw run.1 = s.valueWith name raw f
  asked : ∀ f : String → Option String, (∀ q ∈ l, f q.1 = q.2) → asked f raw = l.map Prod.fst
  covers : Covers (references raw) (s.settledValue name raw run.1 != s.inherited.find? name) l

/-- A property that is neither done nor waits is opened and finished. -/
theorem exists_opened (fuel : Nat) (hdone : p.done.find? name = none)
    (hraw : s.declared.find? name = some raw) (h : name ∉ st) :
    ∃ l run, (valueM s (fuel + 1) st name).run p = finish s name raw run ∧
      Opened s fuel st name raw p l run := by
  have hrun : (valueM s (fuel + 1) st name).run p =
      finish s name raw ((substitutedM s fuel st name raw).run p) := by
    simp only [valueM, StateT.run_bind, StateT.run_get, pure_bind, hdone, hraw,
      List.contains_eq_mem, h, decide_false, Bool.false_eq_true, ↓reduceIte, List.mem_cons,
      List.not_mem_nil, or_false, Bool.decide_or, Bool.or_eq_true, beq_iff_eq, decide_eq_true_eq,
      bind_pure_comp, Option.none_or, finish, substitutedM, isWide, Setting.settledValue]
    split
    · rfl
    · rw [StateT.run_bind]
      generalize (substituteM (valueM s fuel (name :: st)) raw).run p = run
      obtain ⟨a, p'⟩ := run
      rfl
  have hmentions : ∀ {l : List (String × Option String)}, (∀ q ∈ l, q.1 ∈ mentioned raw) →
      ∀ q ∈ l, ∀ y ∈ (name :: st).head?, s.Mentions y q.1 := by
    intro l hl q hq y hy
    obtain rfl := Option.some.inj hy
    exact ⟨raw, hraw, hl q hq⟩
  rw [hrun]
  by_cases hwide : isWide raw
  · rw [substitutedM, if_pos hwide]
    refine ⟨[], _, rfl, .nil p, by simp, fun f _ => ?_, fun f _ => asked_of_isWide hwide f, ?_⟩
    · rw [Setting.valueWith, if_pos hwide]
      rfl
    · rw [references_of_isWide hwide]
      exact .nil _
  · rw [substitutedM, if_neg hwide]
    obtain ⟨l, hl, hc⟩ := exists_consults_substituteM (valueM s fuel (name :: st)) raw p
    refine ⟨l, _, rfl, hl.asks, hmentions hl.names, fun f hf => ?_, fun f hf => hl.asked_eq hf,
      hc.mono fun hne => ?_⟩
    · rw [Setting.valueWith, if_neg hwide, hl.result f hf]
    · by_contra hnone
      rw [Option.not_isSome_iff_eq_none.1 hnone, Setting.settledValue, if_neg] at hne
      · simp at hne
      · intro hinitial
        simp_all [isWide]

/-- What a lookup does: it grows what is known, has a reason for its answer, and is done with
nothing but what the name leads to. -/
structure Visit (s : Setting) (st : List String) (p : Progress) (name : String)
    (a : Option String) (p' : Progress) : Prop where
  grows : p.Grows p'
  sound : Sound s st p'
  answered : Answered s st p' name a
  frame : ∀ y, p.done.find? y = none → (p'.done.find? y).isSome → ReflTransGen s.Mentions name y

/-- What several lookups do, one after the other. -/
structure Visits (s : Setting) (st : List String) (p : Progress) (l : List (String × Option String))
    (p' : Progress) : Prop where
  grows : p.Grows p'
  sound : Sound s st p'
  answered : ∀ q ∈ l, Answered s st p' q.1 q.2
  frame : ∀ y, p.done.find? y = none → (p'.done.find? y).isSome →
    ∃ q ∈ l, ReflTransGen s.Mentions q.1 y

theorem Visits.nil (h : Sound s st p) : Visits s st p [] p where
  grows := .refl p
  sound := h
  answered := by simp
  frame y hnone hsome := by simp [hnone] at hsome

theorem Visits.cons {l : List (String × Option String)} (h : Visit s st p name a p')
    (h' : Visits s st p' l p'') : Visits s st p ((name, a) :: l) p'' where
  grows := h.grows.trans h'.grows
  sound := h'.sound
  answered := List.forall_mem_cons.2 ⟨h.answered.mono h'.grows, h'.answered⟩
  frame y hnone hsome := by
    cases hy : p'.done.find? y with
    | some v => exact ⟨_, List.mem_cons_self, h.frame y hnone (by rw [hy]; rfl)⟩
    | none =>
      obtain ⟨q, hq, hqy⟩ := h'.frame y hy hsome
      exact ⟨q, List.mem_cons_of_mem _ hq, hqy⟩

theorem visits_of_asks {fuel : Nat} {l : List (String × Option String)}
    (hvisit : ∀ p name, Sound s st p → (∀ y ∈ st.head?, s.Mentions y name) →
      Visit s st p name ((valueM s fuel st name).run p).1 ((valueM s fuel st name).run p).2)
    (h : Asks (valueM s fuel st) p l p') (hs : Sound s st p)
    (hl : ∀ q ∈ l, ∀ y ∈ st.head?, s.Mentions y q.1) : Visits s st p l p' := by
  induction h with
  | nil => exact .nil hs
  | cons name _ ih =>
    obtain ⟨hname, hl⟩ := List.forall_mem_cons.1 hl
    have hv := hvisit _ name hs hname
    exact .cons hv (ih hv.sound hl)

/-- Being done with a property that was not done before, nor waited. -/
theorem visit_finish {fuel : Nat} {l : List (String × Option String)}
    {run : Option String × Progress} (hraw : s.declared.find? name = some raw)
    (h : Opened s fuel st name raw p l run) (hvisits : Visits s (name :: st) p l run.2) :
    Visit s st p name (finish s name raw run).1 (finish s name raw run).2 := by
  have hvalue := h.value
  have hcovers := h.covers
  rw [finish]
  generalize hv : (if run.2.cyclic.contains name then s.inherited.find? name
    else s.settledValue name raw run.1) = value
  have hwaiting := hvisits.sound.waiting name List.mem_cons_self
  have hentry : Entry s run.2.done.entries name value := by
    by_cases hc : run.2.cyclic.contains name
    · rw [if_pos hc] at hv
      exact .looped (hvisits.sound.cyclic name (by simpa using hc)) hv.symm
    · rw [if_neg hc] at hv
      rw [hv] at hvalue hcovers
      refine .computed hraw (fun q hq => ?_) hvalue hcovers
      cases hvisits.answered q hq with
      | done h => exact .inl ((Table.find?_eq_some_iff hvisits.sound.keys).1 h)
      | undeclared h ha => exact .inr ⟨h, ha⟩
      | waiting h ha hup =>
        -- all that wait down to the name that was found are on a cycle, the property first
        refine absurd ?_ hc
        rw [List.contains_iff_mem]
        refine hup ?_
        rw [upTo]
        split <;> exact List.mem_cons_self
  have hgrows : run.2.Grows { run.2 with done := run.2.done.insert name value } :=
    .insert hwaiting.2 value
  refine ⟨hvisits.grows.trans hgrows, hvisits.sound.pop hentry, .done ?_, fun y hnone hsome => ?_⟩
  · rw [Table.find?_insert, if_pos rfl]
  · by_cases hy : name = y
    · rw [hy]
    · rw [Table.find?_insert, if_neg hy] at hsome
      obtain ⟨q, hq, hqy⟩ := hvisits.frame y hnone hsome
      exact .head (h.mentions q hq name rfl) hqy

/-- The fuel is enough for a stack without repetitions, so that each lookup is a visit. -/
theorem visit_valueM {fuel : Nat} (h : Sound s st p) (hroom : s.declared.size < fuel + st.length)
    (hhead : ∀ y ∈ st.head?, s.Mentions y name) :
    Visit s st p name ((valueM s fuel st name).run p).1 ((valueM s fuel st name).run p).2 := by
  induction fuel generalizing st p name with
  | zero =>
    have := h.length_le
    omega
  | succ fuel ih =>
    cases hdone : p.done.find? name with
    | some a =>
      rw [run_valueM_of_done hdone]
      exact ⟨.refl p, h, .done hdone, fun y hnone hsome => by simp [hnone] at hsome⟩
    | none =>
      cases hraw : s.declared.find? name with
      | none =>
        rw [run_valueM_of_undeclared hdone hraw]
        exact ⟨.refl p, h, .undeclared hraw rfl, fun y hnone hsome => by simp [hnone] at hsome⟩
      | some raw =>
        by_cases hst : name ∈ st
        · rw [run_valueM_of_waiting hdone hraw hst]
          refine ⟨⟨fun _ _ h => h, List.subset_append_right _ _⟩, h.close hst hhead,
            .waiting hst rfl (List.subset_append_left _ _),
            fun y hnone hsome => by simp [hnone] at hsome⟩
        · obtain ⟨l, run, hrun, hopened⟩ := exists_opened fuel hdone hraw hst
          have hpush := h.push hdone hst (by rw [hraw]; rfl) hhead
          rw [hrun]
          refine visit_finish hraw hopened (visits_of_asks (fun p y hs hy => ih hs ?_ hy)
            hopened.asks hpush hopened.mentions)
          simp only [List.length_cons]
          omega

theorem Sound.visits {fuel : Nat} {l : List (String × Option String)} (h : Sound s st p)
    (hroom : s.declared.size < fuel + st.length) (hasks : Asks (valueM s fuel st) p l p')
    (hl : ∀ q ∈ l, ∀ y ∈ st.head?, s.Mentions y q.1) : Visits s st p l p' :=
  visits_of_asks (fun _ _ hs hy => visit_valueM hs hroom hy) hasks h hl

/-! ### All properties -/

theorem sound_start (s : Setting) : Sound s [] ⟨.empty, []⟩ where
  nodup := List.nodup_nil
  waiting := by simp
  chain := .nil
  keys := List.nodup_nil
  cyclic := by simp
  history l y a r hl := by simp [Table.empty] at hl

/-- Properties are resolved by a lookup each, with nothing on the stack. -/
theorem exists_asks_resolveAll (s : Setting) (names : List String) :
    (resolveAll s names).map Prod.fst = names ∧
      ∃ p, Asks (valueM s (s.declared.size + 1) []) ⟨.empty, []⟩ (resolveAll s names) p := by
  let resolve (name : String) : StateM Progress (String × Option String) := do
    pure (name, ← valueM s (s.declared.size + 1) [] name)
  have hmap : ∀ (names : List String) (p : Progress),
      ((names.mapM resolve).run p).1.map Prod.fst = names ∧
        Asks (valueM s (s.declared.size + 1) []) p ((names.mapM resolve).run p).1
          ((names.mapM resolve).run p).2 := by
    intro names
    induction names with
    | nil => exact fun p => ⟨rfl, .nil p⟩
    | cons name names ih =>
      intro p
      have hrun : ((name :: names).mapM resolve).run p =
          ((name, ((valueM s (s.declared.size + 1) [] name).run p).1) ::
            ((names.mapM resolve).run ((valueM s (s.declared.size + 1) [] name).run p).2).1,
          ((names.mapM resolve).run ((valueM s (s.declared.size + 1) [] name).run p).2).2) := by
        rw [List.mapM_cons]
        rfl
      obtain ⟨hkeys, hasks⟩ := ih ((valueM s (s.declared.size + 1) [] name).run p).2
      rw [hrun]
      exact ⟨congrArg (name :: ·) hkeys, .cons name hasks⟩
  exact ⟨(hmap names _).1, _, (hmap names _).2⟩

/-- What is known when all properties are resolved. -/
structure Resolved (s : Setting) (p : Progress) (R : String → Option String) : Prop where
  sound : Sound s [] p
  declared : ∀ x, (s.declared.find? x).isSome → p.done.find? x = some (R x)
  undeclared : ∀ x, s.declared.find? x = none → R x = s.inherited.find? x

/-- Writing down what was found. -/
def record (t : Table String String) (q : String × Option String) : Table String String :=
  match q.2 with
  | some v => t.insert q.1 v
  | none => t.erase q.1

theorem find?_record (t : Table String String) (q : String × Option String) (x : String) :
    (record t q).find? x = if q.1 = x then q.2 else t.find? x := by
  obtain ⟨name, a⟩ := q
  cases a with
  | some v => exact Table.find?_insert t name x v
  | none => exact Table.find?_erase t name x

theorem find?_foldl_record {l : List (String × Option String)}
    (h : ∀ q ∈ l, p.done.find? q.1 = some q.2) (t : Table String String) (x : String) :
    (l.foldl record t).find? x =
      if x ∈ l.map Prod.fst then (p.done.find? x).join else t.find? x := by
  induction l generalizing t with
  | nil => rfl
  | cons q l ih =>
    obtain ⟨hq, hl⟩ := List.forall_mem_cons.1 h
    rw [List.foldl_cons, ih hl, find?_record, List.map_cons]
    by_cases hx : x ∈ l.map Prod.fst
    · rw [if_pos hx, if_pos (List.mem_cons_of_mem _ hx)]
    · by_cases heq : q.1 = x
      · subst heq
        simp [hx, hq]
      · simp [hx, heq, Ne.symm heq]

/-- The setting in which the properties of an element are resolved. -/
def settingOf (specified : SpecifiedValues) (inherited : Table String String) : Setting :=
  ⟨declaredOnes specified, inherited⟩

theorem exists_resolved (specified : SpecifiedValues) (inherited : Table String String) :
    ∃ l p, Asks (valueM (settingOf specified inherited) ((declaredOnes specified).size + 1) [])
      ⟨.empty, []⟩ l p ∧
      Resolved (settingOf specified inherited) p (resolve specified inherited).find? := by
  let s := settingOf specified inherited
  let names := s.declared.keys.mergeSort fun a b => !decide (b < a)
  obtain ⟨hkeys, p, hasks⟩ := exists_asks_resolveAll s names
  have hvisits : Visits s [] ⟨.empty, []⟩ (resolveAll s names) p :=
    (sound_start s).visits (by simp) hasks (by simp)
  have hnames : ∀ x, x ∈ (resolveAll s names).map Prod.fst ↔ (s.declared.find? x).isSome := by
    intro x
    rw [hkeys, List.mem_mergeSort, ← not_iff_not, ← Table.find?_eq_none_iff,
      Option.not_isSome_iff_eq_none]
  have hdone : ∀ q ∈ resolveAll s names, p.done.find? q.1 = some q.2 := by
    intro q hq
    cases hvisits.answered q hq with
    | done h => exact h
    | undeclared h ha =>
      have := (hnames q.1).1 (List.mem_map_of_mem hq)
      simp [h] at this
    | waiting h ha hc => cases h
  have hfind : ∀ x, (resolve specified inherited).find? x =
      if (s.declared.find? x).isSome then (p.done.find? x).join else inherited.find? x := by
    intro x
    refine (find?_foldl_record hdone inherited x).trans ?_
    simp only [hnames]
  refine ⟨resolveAll s names, p, hasks, hvisits.sound, fun x hx => ?_, fun x hx => ?_⟩
  · obtain ⟨q, hq, rfl⟩ := List.mem_map.1 ((hnames x).2 hx)
    rw [hfind, if_pos hx, hdone q hq]
    rfl
  · rw [hfind, hx]
    rfl

end Custom
end WebStyle
