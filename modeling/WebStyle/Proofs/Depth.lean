import Mathlib.Data.List.Nodup
import Mathlib.Logic.Relation
/-!
How deep a walk along a function goes that lists what comes next. Where nothing is listed twice, the
walks from what is listed nowhere pass nothing twice, and where nothing comes after itself no walk
does.
-/
set_option autoImplicit false

namespace WebStyle

variable {α : Type} {next : α → List α}

/-- Whether all walks from a place end after at most so many steps. -/
def DepthAtMost (next : α → List α) : Nat → α → Prop
  | 0, x => next x = []
  | k + 1, x => ∀ y ∈ next x, DepthAtMost next k y

namespace DepthAtMost

theorem step {k : Nat} {x y : α} (h : DepthAtMost next k x) (hy : y ∈ next x) :
    ∃ j, j < k ∧ DepthAtMost next j y := by
  cases k with
  | zero =>
    rw [show next x = [] from h] at hy
    simp at hy
  | succ k => exact ⟨k, Nat.lt_succ_self k, h y hy⟩

/-- Fewer steps do not lead further. -/
theorem of_subset {next' : α → List α} {k : Nat} {x : α} (h : DepthAtMost next k x)
    (hs : ∀ y, next' y ⊆ next y) : DepthAtMost next' k x := by
  induction k generalizing x with
  | zero =>
    have hx := hs x
    rw [show next x = [] from h] at hx
    exact List.eq_nil_of_subset_nil hx
  | succ k ih => exact fun y hy => ih (h y (hs x hy))

end DepthAtMost

/-- A way back from a place to where the walk began, the last step first. -/
inductive IsTrail (next : α → List α) (x : α) : List α → Prop where
  | start : IsTrail next x [x]
  | step {y z : α} {l : List α} (h : IsTrail next x (y :: l)) (hz : z ∈ next y) :
      IsTrail next x (z :: y :: l)

namespace IsTrail

variable {x y z : α} {l : List α}

theorem next_ne_nil (h : IsTrail next x (y :: l)) : ∀ w ∈ l, next w ≠ [] := by
  generalize hl : y :: l = path at h
  induction h generalizing y l with
  | start =>
    obtain ⟨-, rfl⟩ := List.cons.inj hl
    simp
  | step h hz ih =>
    obtain ⟨-, rfl⟩ := List.cons.inj hl
    intro w hw
    rcases List.mem_cons.1 hw with rfl | hw
    · exact List.ne_nil_of_mem hz
    · exact ih rfl w hw

/-- Each place of a trail is its start, or is listed by a place that comes before it. -/
theorem eq_or_mem_next (h : IsTrail next x (y :: l)) (hz : z ∈ y :: l) :
    z = x ∨ ∃ w ∈ l, z ∈ next w := by
  generalize hl : y :: l = path at h hz
  induction h generalizing y l with
  | start => exact .inl (by simpa using hz)
  | step h hz' ih =>
    obtain ⟨-, rfl⟩ := List.cons.inj hl
    rcases List.mem_cons.1 hz with rfl | hz
    · exact .inr ⟨_, by simp, hz'⟩
    · rcases ih rfl hz with rfl | ⟨w, hw, hzw⟩
      · exact .inl rfl
      · exact .inr ⟨w, List.mem_cons_of_mem _ hw, hzw⟩

/-- What a trail leads to next is not on it. -/
theorem notMem_of_mem_next (unique : ∀ p p' q, q ∈ next p → q ∈ next p' → p = p')
    (root : ∀ p, x ∉ next p) (h : IsTrail next x (y :: l)) (hn : (y :: l).Nodup)
    (hz : z ∈ next y) : z ∉ y :: l := by
  intro hmem
  rcases h.eq_or_mem_next hmem with rfl | ⟨w, hw, hzw⟩
  · exact root y hz
  · rw [unique w y z hzw hz] at hw
    exact (List.nodup_cons.1 hn).1 hw

end IsTrail

/-- Where each thing is listed by one other at most, walks from what is listed nowhere are no longer
than there are things that list others. -/
theorem depthAtMost_of_unique {x : α} {N : Nat}
    (unique : ∀ p p' q, q ∈ next p → q ∈ next p' → p = p') (root : ∀ p, x ∉ next p)
    (bound : ∀ l : List α, l.Nodup → (∀ y ∈ l, next y ≠ []) → l.length ≤ N) :
    DepthAtMost next N x := by
  have main : ∀ k y l, IsTrail next x (y :: l) → (y :: l).Nodup → N ≤ k + l.length →
      DepthAtMost next k y := by
    intro k
    induction k with
    | zero =>
      intro y l h hn hk
      by_contra hy
      have hle := bound (y :: l) hn fun w hw => by
        rcases List.mem_cons.1 hw with rfl | hw
        · exact hy
        · exact h.next_ne_nil w hw
      simp only [List.length_cons] at hle
      omega
    | succ k ih =>
      intro y l h hn hk z hz
      refine ih z (y :: l) (h.step hz) ?_ (by simp only [List.length_cons]; omega)
      exact List.nodup_cons.2 ⟨h.notMem_of_mem_next unique root hn hz, hn⟩
  exact main N x [] .start (by simp) (by simp)

/-- Where no place comes after itself, a walk is no longer than the number of places that list
others. -/
theorem depthAtMost_of_acyclic {N : Nat}
    (acyclic : ∀ x, ¬ Relation.TransGen (fun x y => y ∈ next x) x x)
    (bound : ∀ l : List α, l.Nodup → (∀ y ∈ l, next y ≠ []) → l.length ≤ N) (x : α) :
    DepthAtMost next N x := by
  -- the induction is on the steps that are left; the list holds what the walk passed
  have main : ∀ k x (l : List α), l.Nodup →
      (∀ y ∈ l, Relation.TransGen (fun x y => y ∈ next x) y x) → (∀ y ∈ l, next y ≠ []) →
      N ≤ k + l.length → DepthAtMost next k x := by
    intro k
    induction k with
    | zero =>
      intro x l hn hl hne hk
      by_contra hx
      have hle := bound (x :: l) (List.nodup_cons.2 ⟨fun hx => acyclic x (hl x hx), hn⟩)
        (List.forall_mem_cons.2 ⟨hx, hne⟩)
      simp only [List.length_cons] at hle
      omega
    | succ k ih =>
      intro x l hn hl hne hk y hy
      refine ih y (x :: l) (List.nodup_cons.2 ⟨fun hx => acyclic x (hl x hx), hn⟩)
        (List.forall_mem_cons.2 ⟨.single hy, fun z hz => (hl z hz).tail hy⟩)
        (List.forall_mem_cons.2 ⟨List.ne_nil_of_mem hy, hne⟩) ?_
      simp only [List.length_cons]
      omega
  exact main N x [] List.nodup_nil (by simp) (by simp) (by simp)

end WebStyle
