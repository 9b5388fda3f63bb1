import WebStyle.Proofs.Sequence
import WebStyle.Token
/-!
Reading by positions, with every operation that can fail checked: indices, slices, counters that go
down, and integers of a fixed width. A cursor is a position in a list; it agrees with a reader that
takes the elements left if it returns the same and stops where that one stops.
-/
set_option autoImplicit false

namespace WebStyle.Cursor

/-- What a checked operation can run into. -/
inductive Fault where
  /-- No element has the index. -/
  | index
  /-- A slice ends before it starts, or after the end. -/
  | slice
  /-- A counter would go below zero. -/
  | underflow
  /-- An integer does not fit its width. -/
  | overflow
  /-- A text is cut inside of a character. -/
  | cut
  /-- A loop or a recursion does not end in time. -/
  | endless
  /-- A chain of compound selectors lacks a combinator, or has one too many. -/
  | chain
  deriving DecidableEq, Repr

/-- Why a computation stops: what it reads is not valid, or an operation fails. -/
inductive Stop where
  | refused
  | fault (f : Fault)
  deriving DecidableEq, Repr

abbrev Checked := Except Stop

variable {α β γ σ : Type}

/-- A result, or a refusal where there is none. -/
def ofOption : Option α → Checked α
  | some a => .ok a
  | none => .error .refused

/-- Turns a refusal into a result. Faults stay. -/
def attempt : Checked α → Checked (Option α)
  | .ok a => .ok (some a)
  | .error .refused => .ok none
  | .error (.fault f) => .error (.fault f)

def index (l : List α) (i : Nat) : Checked α :=
  match l[i]? with
  | some x => .ok x
  | none => .error (.fault .index)

/-- The elements from `start` on, up to and without `stop`. -/
def slice (l : List α) (start stop : Nat) : Checked (List α) :=
  if start ≤ stop ∧ stop ≤ l.length then .ok ((l.take stop).drop start)
  else .error (.fault .slice)

def decrease (n k : Nat) : Checked Nat :=
  if k ≤ n then .ok (n - k) else .error (.fault .underflow)

/-- An integer that has to lie within bounds. -/
def within (least greatest n : Int) : Checked Int :=
  if least ≤ n ∧ n ≤ greatest then .ok n else .error (.fault .overflow)

/-- A natural number that has to fit a type with so many values. -/
def fits (size n : Nat) : Checked Nat :=
  if n < size then .ok n else .error (.fault .overflow)

/-- Repeats a step until it gives a result, at most as many times as there are rounds. -/
def loop (step : σ → Checked (σ ⊕ β)) : Nat → σ → Checked β
  | 0, _ => .error (.fault .endless)
  | rounds + 1, s => step s >>= Sum.elim (loop step rounds) .ok

@[simp] theorem ok_bind (a : α) (f : α → Checked β) : Except.ok a >>= f = f a := rfl

@[simp] theorem error_bind (stop : Stop) (f : α → Checked β) :
    Except.error stop >>= f = .error stop := rfl

@[simp] theorem attempt_ofOption (o : Option α) : attempt (ofOption o) = .ok o := by
  cases o <;> rfl

section Loop
variable {step : σ → Checked (σ ⊕ β)} {s : σ} {rounds : Nat}

theorem loop_inl (s' : σ) (hrounds : 0 < rounds) (h : step s = .ok (.inl s')) :
    loop step rounds s = loop step (rounds - 1) s' := by
  obtain ⟨rounds, rfl⟩ := Nat.exists_eq_add_one_of_ne_zero hrounds.ne'
  rw [loop, h]
  rfl

theorem loop_inr {b : β} (hrounds : 0 < rounds) (h : step s = .ok (.inr b)) :
    loop step rounds s = .ok b := by
  obtain ⟨rounds, rfl⟩ := Nat.exists_eq_add_one_of_ne_zero hrounds.ne'
  rw [loop, h]
  rfl

theorem loop_error {stop : Stop} (hrounds : 0 < rounds) (h : step s = .error stop) :
    loop step rounds s = .error stop := by
  obtain ⟨rounds, rfl⟩ := Nat.exists_eq_add_one_of_ne_zero hrounds.ne'
  rw [loop, h]
  rfl

end Loop

/-! ### Positions -/

/-- Whether `r` is what is left of `l` at a position. -/
structure At (l : List α) (pos : Nat) (r : List α) : Prop where
  le : pos ≤ l.length
  drop : l.drop pos = r

namespace At
variable {l r : List α} {pos : Nat} {x : α}

theorem start (l : List α) : At l 0 l := ⟨Nat.zero_le _, rfl⟩

theorem length (h : At l pos r) : pos + r.length = l.length := by
  rw [← h.drop, List.length_drop]
  exact Nat.add_sub_of_le h.le

/-- A loop that goes on by one element at least in each round ends in time. -/
theorem lt_rounds (h : At l pos r) : r.length < l.length + 1 := by
  have := h.length
  omega

theorem lt (h : At l pos (x :: r)) : pos < l.length := by
  have := h.length
  simp only [List.length_cons] at this
  omega

theorem eq_length (h : At l pos []) : pos = l.length := by simpa using h.length

theorem of_append {before : List α} (h : l = before ++ r) : At l before.length r where
  le := by simp [h]
  drop := by simp [h]

theorem stop (l : List α) : At l l.length [] := ⟨le_rfl, List.drop_length⟩

theorem getElem?_add (h : At l pos r) (i : Nat) : l[pos + i]? = r[i]? := by
  rw [← h.drop, List.getElem?_drop]

theorem getElem? (h : At l pos r) : l[pos]? = r[0]? := h.getElem?_add 0

theorem eq_cons (h : At l pos r) (hx : l[pos]? = some x) : ∃ r', r = x :: r' := by
  rw [h.getElem?] at hx
  cases r with
  | nil => cases hx
  | cons y r => exact ⟨r, congrArg (· :: r) (Option.some.inj hx)⟩

theorem index (h : At l pos (x :: r)) : index l pos = .ok x := by
  rw [Cursor.index, h.getElem?]
  rfl

/-- The position after some of the elements left. -/
theorem add {piece : List α} (h : At l pos (piece ++ r)) : At l (pos + piece.length) r where
  le := by
    have := h.length
    rw [List.length_append] at this
    omega
  drop := by rw [← List.drop_drop, h.drop, List.drop_left]

theorem next (h : At l pos (x :: r)) : At l (pos + 1) r :=
  (show At l pos ([x] ++ r) from h).add

theorem slice {piece : List α} (h : At l pos (piece ++ r)) :
    slice l pos (pos + piece.length) = .ok piece := by
  rw [Cursor.slice, if_pos ⟨Nat.le_add_right _ _, h.add.le⟩, List.drop_take, h.drop]
  simp

/-- A slice up to the position of what follows it. -/
theorem slice_to {piece : List α} {stop : Nat} (h : At l pos (piece ++ r)) (hstop : At l stop r) :
    Cursor.slice l pos stop = .ok piece := by
  have hpos := h.add.length
  have := hstop.length
  rw [← h.slice, show stop = pos + piece.length by omega]

theorem slice_rest (h : At l pos r) : Cursor.slice l pos l.length = .ok r := by
  rw [← h.length]
  exact slice (r := []) (by simpa using h)

end At

/-- Whether a cursor returns what a reader returns, at the position of what that one leaves. -/
def Lands (l : List α) (x : Checked (β × Nat)) (p : β × List α) : Prop :=
  ∃ pos, x = .ok (p.1, pos) ∧ At l pos p.2

/-- Whether a cursor agrees with a reader that may have nothing to return. -/
def Follows (l : List α) (x : Checked (β × Nat)) : Option (β × List α) → Prop
  | some p => Lands l x p
  | none => x = .error .refused

theorem Lands.of_at {l r : List α} {pos : Nat} (h : At l pos r) (b : β) :
    Lands l (.ok (b, pos)) (b, r) := ⟨pos, rfl, h⟩

theorem Follows.of_at {l r : List α} {pos : Nat} (h : At l pos r) (b : β) :
    Follows l (.ok (b, pos)) (some (b, r)) := Lands.of_at h b

theorem Follows.refused {l : List α} {x : Checked (β × Nat)} (h : Follows l x none) :
    x = .error .refused := h

section Loop
variable {step : σ → Checked (σ ⊕ (β × Nat))} {s : σ} {rounds pos : Nat} {l : List α}
  {p : β × List α}

theorem Lands.of_loop_inl (s' : σ) (hrounds : 0 < rounds) (hstep : step s = .ok (.inl s'))
    (h : Lands l (loop step (rounds - 1) s') p) : Lands l (loop step rounds s) p :=
  loop_inl s' hrounds hstep ▸ h

theorem Lands.of_loop_inr (hrounds : 0 < rounds) (hstep : step s = .ok (.inr (p.1, pos)))
    (h : At l pos p.2) : Lands l (loop step rounds s) p :=
  ⟨pos, loop_inr hrounds hstep, h⟩

end Loop

theorem Follows.bind {l : List α} {x : Checked (β × Nat)} {o : Option (β × List α)}
    {f : β × Nat → Checked (γ × Nat)} {g : β × List α → Option (γ × List α)} (h : Follows l x o)
    (hf : ∀ b r pos, o = some (b, r) → At l pos r → Follows l (f (b, pos)) (g (b, r))) :
    Follows l (x >>= f) (o.bind g) := by
  cases o with
  | none => rw [h]; rfl
  | some p =>
    obtain ⟨pos, hx, hpos⟩ := h
    rw [hx]
    exact hf p.1 p.2 pos rfl hpos

/-- Skips the elements that satisfy `p`. -/
def skipWhile (p : α → Bool) (l : List α) (pos : Nat) : Checked Nat :=
  loop (fun pos => do
    if pos < l.length then
      if p (← index l pos) then .ok (.inl (pos + 1)) else .ok (.inr pos)
    else .ok (.inr pos)) (l.length + 1) pos

theorem skipWhile_at (p : α → Bool) {l r : List α} {pos : Nat} (h : At l pos r) :
    ∃ next, skipWhile p l pos = .ok next ∧ At l next (r.dropWhile p) := by
  have hrounds := h.lt_rounds
  unfold skipWhile
  generalize l.length + 1 = rounds at hrounds
  induction r generalizing pos rounds with
  | nil => exact ⟨pos, loop_inr (by omega) (by simp [h.eq_length]), h⟩
  | cons x r ih =>
    simp only [List.length_cons] at hrounds
    cases hx : p x with
    | true =>
      rw [loop_inl (pos + 1) (by omega) (by simp [h.lt, h.index, hx])]
      simpa [hx] using ih h.next (rounds - 1) (by omega)
    | false =>
      exact ⟨pos, loop_inr (by omega) (by simp [h.lt, h.index, hx]), by simpa [hx] using h⟩

end WebStyle.Cursor
