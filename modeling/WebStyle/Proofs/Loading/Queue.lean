import Mathlib.Data.List.Nodup
import WebStyle.Loading.Response
/-!
Loads are told apart by their tickets, and by their targets: nothing is loaded twice for one target.
What is to be loaded for a target is not changed by the loads of others.
-/
set_option autoImplicit false

namespace WebStyle

/-- What is to be loaded, and what is known of its encoding. -/
structure LoadRequest where
  url : Url
  referrer : Option Encoding
  declared : Option String

def PendingLoad.request {τ : Type} (l : PendingLoad τ) : LoadRequest :=
  ⟨l.url, l.referrer, l.declared⟩

/-- The text that a result amounts to, if it does. -/
def LoadRequest.read (q : LoadRequest) (settings : LoaderSettings) :
    Except FetchError Response → Option SheetText
  | .error _ => none
  | .ok r =>
    let load : PendingLoad Unit := ⟨0, q.url, (), q.referrer, q.declared⟩
    (SheetText.ofResponse load r settings).toOption

theorem PendingLoad.read_request {τ : Type} (l : PendingLoad τ) (settings : LoaderSettings)
    (result : Except FetchError Response) : l.request.read settings result =
      ((result.mapError LoadError.fetch).bind fun r =>
        SheetText.ofResponse l r settings).toOption := by
  cases result <;> rfl

theorem find?_of_nodup_map {α κ : Type} [DecidableEq κ] {key : α → κ} {l : List α} {x : α}
    (hn : (l.map key).Nodup) (hx : x ∈ l) : l.find? (key · == key x) = some x := by
  cases hf : l.find? (key · == key x) with
  | none => simpa using List.find?_eq_none.1 hf x hx
  | some y =>
    have hkey := List.find?_some hf
    rw [List.inj_on_of_nodup_map hn (List.mem_of_find?_eq_some hf) hx (by simpa using hkey)]

namespace LoadQueue

variable {τ : Type} {q : LoadQueue τ} {l : PendingLoad τ}

def targets (q : LoadQueue τ) : List τ := q.pending.map (·.target)

theorem mem_targets (hl : l ∈ q.pending) : l.target ∈ q.targets := List.mem_map.2 ⟨l, hl, rfl⟩

theorem targets_filter_subset (q : LoadQueue τ) (p : PendingLoad τ → Bool) :
    (q.filter p).targets ⊆ q.targets :=
  List.map_subset _ List.filter_sublist.subset

theorem targets_declare (q : LoadQueue τ) (ticket : Nat) (label : Option String) :
    (q.declare ticket label).targets = q.targets := by
  rw [targets, declare, List.map_map]
  refine List.map_congr_left fun l _ => ?_
  simp only [Function.comp_apply]
  split <;> rfl

/-- Labels make no difference to what is loaded for what. -/
theorem exists_of_mem_declare {ticket : Nat} {label : Option String}
    (hl : l ∈ (q.declare ticket label).pending) :
    ∃ l₀ ∈ q.pending, l.target = l₀.target ∧ l.url = l₀.url := by
  obtain ⟨l₀, hl₀, rfl⟩ := List.mem_map.1 hl
  refine ⟨l₀, hl₀, ?_⟩
  split <;> exact ⟨rfl, rfl⟩

theorem targets_pushBack (url : Url) (t : τ) (referrer : Option Encoding) :
    (q.pushBack url t referrer).1.targets = q.targets ++ [t] := by
  simp [targets, pushBack]

/-- Whether the loads have different tickets, all of which were given out. -/
structure Ticketed (q : LoadQueue τ) : Prop where
  tickets : (q.pending.map (·.ticket)).Nodup
  given : ∀ l ∈ q.pending, l.ticket < q.next

namespace Ticketed

theorem of_nil (hq : q.pending = []) : q.Ticketed := ⟨by simp [hq], by simp [hq]⟩

variable (h : q.Ticketed)
include h

theorem filter (p : PendingLoad τ → Bool) : (q.filter p).Ticketed where
  tickets := h.tickets.sublist (List.filter_sublist.map _)
  given l hl := h.given l (List.mem_of_mem_filter hl)

theorem ticket_fresh : q.next ∉ q.pending.map (·.ticket) := by
  intro hmem
  obtain ⟨l, hl, heq⟩ := List.mem_map.1 hmem
  exact Nat.ne_of_lt (h.given l hl) heq

theorem pushFront (url : Url) (t : τ) (referrer : Option Encoding) :
    (q.pushFront url t referrer).1.Ticketed where
  tickets := List.nodup_cons.2 ⟨h.ticket_fresh, h.tickets⟩
  given l hl := by
    rcases List.mem_cons.1 hl with rfl | hl
    · exact Nat.lt_succ_self _
    · exact Nat.lt_succ_of_lt (h.given l hl)

omit h in
theorem pushBack_perm_pushFront (q : LoadQueue τ) (url : Url) (t : τ)
    (referrer : Option Encoding) :
    (q.pushBack url t referrer).1.pending.Perm (q.pushFront url t referrer).1.pending :=
  List.perm_append_singleton _ _

theorem pushBack (url : Url) (t : τ) (referrer : Option Encoding) :
    (q.pushBack url t referrer).1.Ticketed := by
  have hfront := h.pushFront url t referrer
  have hperm := pushBack_perm_pushFront q url t referrer
  exact ⟨(hperm.map _).nodup_iff.2 hfront.tickets,
    fun l hl => hfront.given l (hperm.mem_iff.1 hl)⟩

theorem declare (ticket : Nat) (label : Option String) : (q.declare ticket label).Ticketed := by
  have hsame : ∀ l : PendingLoad τ,
      (if l.ticket == ticket then { l with declared := label } else l).ticket = l.ticket := by
    intro l
    split <;> rfl
  refine ⟨?_, fun l hl => ?_⟩
  · rw [LoadQueue.declare, List.map_map]
    simpa only [Function.comp_def, hsame] using h.tickets
  · obtain ⟨l', hl', rfl⟩ := List.mem_map.1 hl
    rw [hsame l']
    exact h.given l' hl'

end Ticketed

/-- Whether the loads have different tickets, all of which were given out, and different targets. -/
structure Proper (q : LoadQueue τ) : Prop extends Ticketed q where
  targets : q.targets.Nodup

namespace Proper

theorem of_nil (hq : q.pending = []) : q.Proper :=
  ⟨.of_nil hq, by simp [LoadQueue.targets, hq]⟩

variable (h : q.Proper)
include h

theorem filter (p : PendingLoad τ → Bool) : (q.filter p).Proper :=
  ⟨h.toTicketed.filter p, h.targets.sublist (List.filter_sublist.map _)⟩

theorem pushFront (url : Url) {t : τ} (referrer : Option Encoding)
    (ht : t ∉ q.targets) : (q.pushFront url t referrer).1.Proper :=
  ⟨h.toTicketed.pushFront url t referrer, List.nodup_cons.2 ⟨ht, h.targets⟩⟩

theorem pushBack (url : Url) {t : τ} (referrer : Option Encoding)
    (ht : t ∉ q.targets) : (q.pushBack url t referrer).1.Proper :=
  ⟨h.toTicketed.pushBack url t referrer,
    ((Ticketed.pushBack_perm_pushFront q url t referrer).map _).nodup_iff.2
      (h.pushFront url referrer ht).targets⟩

theorem declare (ticket : Nat) (label : Option String) : (q.declare ticket label).Proper :=
  ⟨h.toTicketed.declare ticket label, (q.targets_declare ticket label).symm ▸ h.targets⟩

theorem eq_of_ticket {l' : PendingLoad τ} (hl : l ∈ q.pending) (hl' : l' ∈ q.pending)
    (heq : l.ticket = l'.ticket) : l = l' :=
  List.inj_on_of_nodup_map h.tickets hl hl' heq

theorem eq_of_target {l' : PendingLoad τ} (hl : l ∈ q.pending) (hl' : l' ∈ q.pending)
    (heq : l.target = l'.target) : l = l' :=
  List.inj_on_of_nodup_map h.targets hl hl' heq

end Proper

/-! ### What becomes of loads -/

/-- Whether a queue may come after another one: what comes in has a new ticket. -/
structure LeadsTo (q q' : LoadQueue τ) : Prop where
  next_le : q.next ≤ q'.next
  mem : ∀ l ∈ q'.pending, l.ticket < q.next → l ∈ q.pending
  ticketed : q.Ticketed → q'.Ticketed

namespace LeadsTo

variable {q' q'' : LoadQueue τ}

theorem refl (q : LoadQueue τ) : q.LeadsTo q := ⟨Nat.le_refl _, fun _ hl _ => hl, id⟩

theorem trans (h : q.LeadsTo q') (h' : q'.LeadsTo q'') : q.LeadsTo q'' where
  next_le := Nat.le_trans h.next_le h'.next_le
  mem l hl hlt := h.mem l (h'.mem l hl (Nat.lt_of_lt_of_le hlt h.next_le)) hlt
  ticketed hq := h'.ticketed (h.ticketed hq)

theorem filter (q : LoadQueue τ) (p : PendingLoad τ → Bool) : q.LeadsTo (q.filter p) :=
  ⟨Nat.le_refl _, fun _ hl _ => List.mem_of_mem_filter hl, fun hq => hq.filter p⟩

theorem clear (q : LoadQueue τ) : q.LeadsTo q.clear :=
  ⟨Nat.le_refl _, fun _ hl _ => absurd hl List.not_mem_nil, fun _ => .of_nil rfl⟩

theorem pushFront (q : LoadQueue τ) (url : Url) (t : τ) (referrer : Option Encoding) :
    q.LeadsTo (q.pushFront url t referrer).1 where
  next_le := Nat.le_succ _
  mem l hl hlt := by
    rcases List.mem_cons.1 hl with rfl | hl
    · exact absurd hlt (Nat.lt_irrefl _)
    · exact hl
  ticketed hq := hq.pushFront url t referrer

theorem pushBack (q : LoadQueue τ) (url : Url) (t : τ) (referrer : Option Encoding) :
    q.LeadsTo (q.pushBack url t referrer).1 where
  next_le := Nat.le_succ _
  mem l hl := (LeadsTo.pushFront q url t referrer).mem l
    ((Ticketed.pushBack_perm_pushFront q url t referrer).mem_iff.1 hl)
  ticketed hq := hq.pushBack url t referrer

/-- A label that is given to a new load leaves the others as they are. -/
theorem pushBack_declare (q : LoadQueue τ) (url : Url) (t : τ) (referrer : Option Encoding)
    (label : Option String) :
    q.LeadsTo ((q.pushBack url t referrer).1.declare (q.pushBack url t referrer).2 label) where
  next_le := Nat.le_succ _
  mem l hl hlt := by
    obtain ⟨l₀, hl₀, rfl⟩ := List.mem_map.1 hl
    by_cases heq : (l₀.ticket == (q.pushBack url t referrer).2) = true
    · rw [if_pos heq] at hlt
      exact absurd (beq_iff_eq.1 heq) (Nat.ne_of_lt hlt)
    · rw [if_neg heq] at hlt ⊢
      exact (LeadsTo.pushBack q url t referrer).mem l₀ hl₀ hlt
  ticketed hq := (hq.pushBack url t referrer).declare _ label

theorem take (q : LoadQueue τ) (ticket : Nat) : q.LeadsTo (q.take ticket).1 := by
  rw [LoadQueue.take]
  split
  · exact .refl q
  · exact .filter q _

end LeadsTo

/-- The load of a ticket is taken out. -/
theorem ticket_notMem_take (q : LoadQueue τ) (ticket : Nat) :
    ticket ∉ (q.take ticket).1.pending.map (·.ticket) := by
  rw [take]
  split
  · rename_i hnone
    simpa using hnone
  · simp

theorem take_of_notMem {ticket : Nat} (h : ticket ∉ q.pending.map (·.ticket)) :
    q.take ticket = (q, none) := by
  have hnone : q.pending.find? (·.ticket == ticket) = none := by simpa using h
  rw [take, hnone]

/-! ### What is to be loaded for a target -/

variable [DecidableEq τ] {t : τ}

def request? (q : LoadQueue τ) (t : τ) : Option LoadRequest :=
  (q.pending.find? (·.target == t)).map (·.request)

theorem request?_eq_none_iff : q.request? t = none ↔ t ∉ q.targets := by
  simp [request?, targets]

theorem Proper.request?_of_mem (h : q.Proper) (hl : l ∈ q.pending) :
    q.request? l.target = some l.request := by
  rw [request?, find?_of_nodup_map h.targets hl]
  rfl

/-- The load of a ticket is taken out, and no other. -/
theorem Proper.take_of_mem (h : q.Proper) (hl : l ∈ q.pending) :
    q.take l.ticket = (q.filter (·.target != l.target), some l) := by
  have hfilter : q.pending.filter (·.ticket != l.ticket) =
      q.pending.filter (·.target != l.target) := by
    refine List.filter_congr fun l' hl' => ?_
    by_cases heq : l' = l
    · simp [heq]
    · have ht : l'.ticket ≠ l.ticket := fun ht => heq (h.eq_of_ticket hl' hl ht)
      have ht' : l'.target ≠ l.target := fun ht => heq (h.eq_of_target hl' hl ht)
      rw [bne_iff_ne.2 ht, bne_iff_ne.2 ht']
  rw [take, find?_of_nodup_map h.tickets hl, LoadQueue.filter, ← hfilter]

theorem Proper.take_eq (h : q.Proper) (ticket : Nat) : (q.take ticket).2 = none ∨
    ∃ l ∈ q.pending, l.ticket = ticket ∧
      q.take ticket = (q.filter (·.target != l.target), some l) := by
  cases hf : q.pending.find? (·.ticket == ticket) with
  | none =>
    rw [take, hf]
    exact .inl rfl
  | some l =>
    have hl := List.mem_of_find?_eq_some hf
    obtain rfl : l.ticket = ticket := by simpa using List.find?_some hf
    exact .inr ⟨l, hl, rfl, h.take_of_mem hl⟩

theorem notMem_targets_filter (q : LoadQueue τ) (t : τ) :
    t ∉ (q.filter (·.target != t)).targets := by
  simp [targets, filter]

theorem request?_filter_target (q : LoadQueue τ) (t t' : τ) :
    (q.filter (·.target != t)).request? t' = if t' = t then none else q.request? t' := by
  rw [request?, filter, List.find?_filter]
  split
  · rename_i heq
    simp [heq]
  · rename_i hne
    rw [request?]
    congr 2
    funext l
    by_cases hl : l.target = t'
    · simp [hl, hne]
    · simp [hl]

theorem request?_pushFront (url : Url) (referrer : Option Encoding) (t' : τ) :
    (q.pushFront url t referrer).1.request? t' =
      if t' = t then some ⟨url, referrer, none⟩ else q.request? t' := by
  rw [request?, pushFront, List.find?_cons]
  split
  · rename_i heq
    have heq' : t = t' := by simpa using heq
    simp [heq', PendingLoad.request]
  · rename_i hne
    have hne' : t ≠ t' := by simpa using hne
    rw [if_neg (Ne.symm hne')]
    rfl

theorem request?_pushBack (ht : q.request? t = none) (url : Url) (referrer : Option Encoding)
    (t' : τ) : (q.pushBack url t referrer).1.request? t' =
      if t' = t then some ⟨url, referrer, none⟩ else q.request? t' := by
  rw [request?, pushBack, List.find?_append]
  by_cases heq : t' = t
  · subst heq
    have hnone := Option.map_eq_none_iff.1 ht
    simp [hnone, PendingLoad.request]
  · have hne : t ≠ t' := Ne.symm heq
    simp [hne, heq, request?]

end LoadQueue
end WebStyle
