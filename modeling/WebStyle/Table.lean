/-!
Finite maps as lists of pairs. The first pair of a key counts, and inserting replaces it where it
stands, so that keys keep the order in which they came.
-/
set_option autoImplicit false

namespace WebStyle

structure Table (κ α : Type) where
  entries : List (κ × α)
  deriving DecidableEq, Repr, Inhabited

namespace Table

variable {κ α : Type} [DecidableEq κ]

def empty : Table κ α := ⟨[]⟩

instance : EmptyCollection (Table κ α) := ⟨empty⟩

def size (t : Table κ α) : Nat := t.entries.length

def keys (t : Table κ α) : List κ := t.entries.map (·.1)

/-- The value of a key. -/
def find? (t : Table κ α) (k : κ) : Option α := (t.entries.find? (·.1 == k)).map (·.2)

def contains (t : Table κ α) (k : κ) : Bool := (t.find? k).isSome

/-- Replaces the value of a key in a list of pairs; a new key goes to the end. -/
def put (k : κ) (v : α) : List (κ × α) → List (κ × α)
  | [] => [(k, v)]
  | (k', v') :: r => if k' = k then (k, v) :: r else (k', v') :: put k v r

def insert (t : Table κ α) (k : κ) (v : α) : Table κ α := ⟨put k v t.entries⟩

def erase (t : Table κ α) (k : κ) : Table κ α := ⟨t.entries.filter (·.1 != k)⟩

def ofList (l : List (κ × α)) : Table κ α := l.foldl (fun t (k, v) => t.insert k v) empty

/-- Inserts all pairs of another table. -/
def insertAll (t u : Table κ α) : Table κ α := u.entries.foldl (fun t (k, v) => t.insert k v) t

theorem find?_put (k k' : κ) (v : α) (l : List (κ × α)) :
    (put k v l).find? (·.1 == k') = if k = k' then some (k, v) else l.find? (·.1 == k') := by
  induction l with
  | nil => by_cases h : k = k' <;> simp [put, h]
  | cons p r ih =>
    obtain ⟨a, b⟩ := p
    by_cases ha : a = k
    · subst ha
      by_cases h : a = k' <;> simp [put, h]
    · by_cases h : a = k'
      · subst h
        have : k ≠ a := fun e => ha e.symm
        simp [put, ha, this]
      · simp [put, ha, h, ih]

@[simp] theorem find?_empty (k : κ) : (empty : Table κ α).find? k = none := rfl

theorem find?_insert (t : Table κ α) (k k' : κ) (v : α) :
    (t.insert k v).find? k' = if k = k' then some v else t.find? k' := by
  simp only [find?, insert, find?_put]
  split <;> simp

theorem find?_erase (t : Table κ α) (k k' : κ) :
    (t.erase k).find? k' = if k = k' then none else t.find? k' := by
  simp only [find?, erase, List.find?_filter]
  by_cases h : k = k'
  · subst h
    simp
  · simp only [h, ↓reduceIte]
    congr 2
    funext p
    by_cases hp : p.1 = k'
    · simpa [hp] using Ne.symm h
    · simp [hp]

theorem keys_insert (t : Table κ α) (k : κ) (v : α) :
    (t.insert k v).keys = if k ∈ t.keys then t.keys else t.keys ++ [k] := by
  obtain ⟨l⟩ := t
  simp only [keys, insert]
  induction l with
  | nil => simp [put]
  | cons p r ih =>
    obtain ⟨a, b⟩ := p
    by_cases ha : a = k
    · simp [put, ha]
    · have hk : k ≠ a := fun e => ha e.symm
      simp only [put, ha, ↓reduceIte, List.map_cons, ih, List.mem_cons, hk, false_or]
      by_cases hr : k ∈ r.map (·.1) <;> simp [hr]

theorem nodup_keys_insert {t : Table κ α} (h : t.keys.Nodup) (k : κ) (v : α) :
    (t.insert k v).keys.Nodup := by
  rw [keys_insert]
  split
  · exact h
  · rename_i hk
    refine List.nodup_append.2 ⟨h, by simp, fun a ha b hb hab => hk ?_⟩
    rw [List.mem_singleton] at hb
    exact hb ▸ hab ▸ ha

/-- In a table without repeated keys, the pairs are what is looked up. -/
theorem find?_eq_some_iff {t : Table κ α} (h : t.keys.Nodup) {k : κ} {v : α} :
    t.find? k = some v ↔ (k, v) ∈ t.entries := by
  obtain ⟨l⟩ := t
  simp only [keys, find?] at h ⊢
  induction l with
  | nil => simp
  | cons p r ih =>
    obtain ⟨a, b⟩ := p
    have hr := (List.nodup_cons.1 h).2
    have ha : ∀ w, (a, w) ∉ r := fun w hw =>
      (List.nodup_cons.1 h).1 (List.mem_map.2 ⟨(a, w), hw, rfl⟩)
    by_cases hk : a = k
    · subst hk
      simp [ha, eq_comm]
    · have hk' : k ≠ a := fun e => hk e.symm
      simp [hk, hk', ih hr]

theorem find?_eq_none_iff {t : Table κ α} {k : κ} : t.find? k = none ↔ k ∉ t.keys := by
  simp only [find?, keys, Option.map_eq_none_iff, List.find?_eq_none, List.mem_map, not_exists,
    not_and]
  exact ⟨fun h p hp e => h p hp (by simp [e]), fun h p hp e => h p hp (by simpa using e)⟩

/-- Without repeated keys, the order of the pairs makes no difference. -/
theorem find?_perm {t u : Table κ α} (h : t.entries.Perm u.entries) (ht : t.keys.Nodup) (k : κ) :
    t.find? k = u.find? k := by
  have hu : u.keys.Nodup := (h.map Prod.fst).nodup_iff.1 ht
  refine Option.ext fun v => ?_
  rw [find?_eq_some_iff ht, find?_eq_some_iff hu, h.mem_iff]

end Table
end WebStyle
