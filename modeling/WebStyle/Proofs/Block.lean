import Mathlib.Data.List.Perm.Subperm
import WebStyle.Block
import WebStyle.Proofs.Block.Legible
import WebStyle.Proofs.Sequence
/-!
What the text of a block is made of, and the block that these declarations make again. It is a block
that declares the same, unless a shorthand was written that does not give its longhands back.
-/
set_option autoImplicit false

namespace WebStyle

/-! ### Shorthands and their longhands -/

namespace Shorthand

theorem ofName?_name (s : Shorthand) : ofName? s.name = some s := by
  cases s <;> decide

/-- No longhand is itself a shorthand. -/
theorem ofName?_of_mem_longhands {s : Shorthand} {n : String} (h : n ∈ s.longhands) :
    ofName? n = none := by
  have hall : ∀ n ∈ s.longhands, ofName? n = none := by
    cases s <;> decide
  exact hall n h

theorem longhands_ne_nil (s : Shorthand) : s.longhands ≠ [] := by
  cases s <;> decide

theorem nodup_longhands (s : Shorthand) : s.longhands.Nodup := by
  cases s <;> decide

theorem propertyName_of_mem_longhands {s : Shorthand} {n : String} (h : n ∈ s.longhands) :
    propertyName n = n := by
  have hall : ∀ n ∈ s.longhands, propertyName n = n := by
    cases s <;> decide
  exact hall n h

theorem length_onSides? {parts vs : List String} (h : onSides? parts = some vs) : vs.length = 4 := by
  unfold onSides? at h
  split at h <;> first | (obtain rfl := Option.some.inj h; rfl) | cases h

theorem length_values? {s : Shorthand} {parts vs : List String} (h : s.values? parts = some vs) :
    vs.length = s.longhands.length := by
  unfold values? at h
  split at h
  · rename_i aspect hbox
    have hfour : vs.length = 4 := by
      split at h
      · exact length_onSides? h
      · cases h
    rw [hfour]
    cases s <;> first | rfl | cases hbox
  · rename_i hbox
    obtain ⟨⟨width, style, color⟩, -, h⟩ := Option.bind_eq_some_iff.1 h
    cases s <;> first | (obtain rfl := Option.some.inj h; rfl) | cases hbox

/-- A value gives a value to each longhand. -/
theorem keys_of_expand? {s : Shorthand} {value : String} {pairs : List (String × String)}
    (h : s.expand? value = some pairs) : pairs.map Prod.fst = s.longhands := by
  unfold expand? at h
  simp only at h
  split at h
  · obtain rfl := Option.some.inj h
    simp [Function.comp_def]
  · obtain ⟨vs, hvs, rfl⟩ := Option.map_eq_some_iff.1 h
    exact List.map_fst_zip (length_values? hvs).ge

theorem mem_longhands_of_mem_covering {s : Shorthand} {n : String} (h : s ∈ covering n) :
    n ∈ s.longhands := by
  simpa using (List.mem_filter.1 h).2

end Shorthand

namespace DeclarationBlock

variable {b : DeclarationBlock} {d e : Declaration} {n : String}

/-- The names of the properties that a list declares. -/
abbrev names (ds : List Declaration) : List String := ds.map (·.name)

/-- Blocks as they are made: no property is declared twice, and no shorthand is left that could be
expanded. -/
structure Flat (b : DeclarationBlock) : Prop where
  nodup : (names b.declarations).Nodup
  settled : ∀ d ∈ b.declarations, expandable? d.name d.value = none

/-! ### Looking up -/

theorem find?_eq_none : b.find? n = none ↔ n ∉ names b.declarations := by
  simp [find?, List.find?_eq_none]

theorem mem_of_find? (h : b.find? n = some d) : d ∈ b.declarations ∧ d.name = n :=
  ⟨List.mem_of_find?_eq_some h, by simpa using List.find?_some h⟩

theorem find?_of_mem (hb : (names b.declarations).Nodup) (h : d ∈ b.declarations) :
    b.find? d.name = some d := by
  cases hfind : b.find? d.name with
  | none => exact absurd (List.mem_map_of_mem h) (find?_eq_none.1 hfind)
  | some e =>
    obtain ⟨he, hname⟩ := mem_of_find? hfind
    rw [List.inj_on_of_nodup_map hb he h hname]

/-- Blocks with the same declarations in some order look up alike. -/
theorem find?_eq_of_mem_iff {b' : DeclarationBlock} (hb' : (names b'.declarations).Nodup)
    (h : ∀ d, d ∈ b'.declarations ↔ d ∈ b.declarations) (n : String) : b'.find? n = b.find? n := by
  cases hfind : b.find? n with
  | none =>
    rw [find?_eq_none] at hfind ⊢
    intro hn
    obtain ⟨d, hd, rfl⟩ := List.mem_map.1 hn
    exact hfind (List.mem_map_of_mem ((h d).1 hd))
  | some d =>
    obtain ⟨hd, rfl⟩ := mem_of_find? hfind
    exact find?_of_mem hb' ((h d).2 hd)

theorem lookup?_congr {b' : DeclarationBlock} (h : ∀ n, b'.find? n = b.find? n) (n : String) :
    b'.lookup? n = b.lookup? n := by
  have hfind : b'.find? = b.find? := funext h
  have hshorthand : b'.shorthandValue? = b.shorthandValue? := by
    funext s
    simp only [shorthandValue?, hfind]
  simp only [lookup?, h, hshorthand]

/-! ### How blocks are made -/

theorem add_of_notMem (h : d.name ∉ names b.declarations) : b.add d = ⟨b.declarations ++ [d]⟩ := by
  simp [add, find?_eq_none.2 h]

/-- What adding a declaration leaves: the block, or the other declarations and this one. -/
theorem add_cases (b : DeclarationBlock) (d : Declaration) :
    b.add d = b ∨ b.add d = ⟨(b.erase [d.name]).declarations ++ [d]⟩ := by
  cases hfind : b.find? d.name with
  | some old =>
    simp only [add, hfind]
    split
    · exact .inl rfl
    · exact .inr rfl
  | none =>
    have herase : (b.erase [d.name]).declarations = b.declarations := by
      refine List.filter_eq_self.2 fun e he => ?_
      have hne : e.name ≠ d.name := fun heq =>
        find?_eq_none.1 hfind (heq ▸ List.mem_map_of_mem he)
      simpa using hne
    rw [herase, add_of_notMem (find?_eq_none.1 hfind)]
    exact .inr rfl

theorem Flat.add (hb : b.Flat) (hd : expandable? d.name d.value = none) : (b.add d).Flat := by
  have hsub : (b.erase [d.name]).declarations.Sublist b.declarations := List.filter_sublist
  rcases add_cases b d with heq | heq
  · rw [heq]
    exact hb
  · rw [heq]
    refine ⟨?_, fun e he => ?_⟩
    · rw [names, List.map_append, List.nodup_append]
      refine ⟨hb.nodup.sublist (hsub.map _), by simp, ?_⟩
      intro n hn m hm
      obtain ⟨e, he, rfl⟩ := List.mem_map.1 hn
      obtain rfl : m = d.name := by simpa using hm
      simpa using (List.mem_filter.1 he).2
    · rcases List.mem_append.1 he with he | he
      · exact hb.settled e (hsub.subset he)
      · obtain rfl := List.mem_singleton.1 he
        exact hd

/-- A declaration stands for itself, or for longhands of the shorthand it is about. -/
theorem mem_expansion (h : e ∈ expansion d) :
    e = d ∧ expandable? d.name d.value = none ∨
      ∃ s, expandable? d.name d.value = some s ∧ e.name ∈ s.longhands := by
  unfold expansion at h
  split at h
  · rename_i hnone
    exact .inl ⟨List.mem_singleton.1 h, hnone⟩
  · rename_i s hs
    obtain ⟨⟨n, v⟩, hmem, rfl⟩ := List.mem_map.1 h
    cases hpairs : s.expand? d.value with
    | none => simp [hpairs] at hmem
    | some pairs =>
      refine .inr ⟨s, hs, Shorthand.keys_of_expand? hpairs ▸ ?_⟩
      exact List.mem_map_of_mem (a := (n, v)) (by simpa [hpairs] using hmem)

/-- What a declaration is expanded to stays as it is. -/
theorem settled_of_mem_expansion (h : e ∈ expansion d) : expandable? e.name e.value = none := by
  rcases mem_expansion h with ⟨rfl, hnone⟩ | ⟨s, -, hlonghand⟩
  · exact hnone
  · simp [expandable?, Shorthand.ofName?_of_mem_longhands hlonghand]

theorem expandable?_name {s t : Shorthand} {value : String}
    (h : expandable? s.name value = some t) : t = s := by
  rw [expandable?, Shorthand.ofName?_name] at h
  split at h
  · simp at h
  · exact (Option.some.inj h).symm

theorem flat_foldl_add {ds : List Declaration} (hb : b.Flat)
    (h : ∀ d ∈ ds, expandable? d.name d.value = none) : (ds.foldl DeclarationBlock.add b).Flat := by
  induction ds generalizing b with
  | nil => exact hb
  | cons d ds ih =>
    exact ih (hb.add (h d List.mem_cons_self)) fun e he => h e (List.mem_cons_of_mem d he)

theorem flat_ofDeclarations (ds : List Declaration) : (ofDeclarations ds).Flat := by
  refine flat_foldl_add ⟨List.nodup_nil, by simp [empty]⟩ fun d hd => ?_
  obtain ⟨e, -, hd⟩ := List.mem_flatMap.1 hd
  exact settled_of_mem_expansion hd

/-- Declarations of different properties are put one after the other. -/
theorem foldl_add_of_nodup {ds : List Declaration}
    (h : (names (b.declarations ++ ds)).Nodup) :
    ds.foldl DeclarationBlock.add b = ⟨b.declarations ++ ds⟩ := by
  induction ds generalizing b with
  | nil => simp
  | cons d ds ih =>
    have hd : d.name ∉ names b.declarations := by
      intro hmem
      rw [names, List.map_append, List.nodup_append] at h
      exact h.2.2 _ hmem d.name (by simp) rfl
    rw [List.foldl_cons, add_of_notMem hd, ih (by simpa using h)]
    simp

/-! ### What a text is made of -/

/-- What the text of a block holds at one place: a declaration of the block, or a shorthand in place
of its longhands. -/
inductive Entry where
  | own (d : Declaration)
  | combined (s : Shorthand) (value : String) (important : Bool)
  deriving DecidableEq, Repr

namespace Entry

def declaration : Entry → Declaration
  | .own d => d
  | .combined s value important => ⟨s.name, value, important⟩

def text (e : Entry) : String :=
  declarationText e.declaration.name e.declaration.value e.declaration.important

end Entry

/-- The entries for declarations, of which those of the properties in `written` are left out. -/
def entriesFrom (b : DeclarationBlock) (written : List String) : List Declaration → List Entry
  | [] => []
  | d :: ds =>
    if written.contains d.name then b.entriesFrom written ds
    else match b.combined? written d.name with
      | some (s, value, important) =>
        .combined s value important :: b.entriesFrom (s.longhands ++ written) ds
      | none => .own d :: b.entriesFrom (d.name :: written) ds

/-- The entries of the text of a block. -/
def entries (b : DeclarationBlock) : List Entry := b.entriesFrom [] b.declarations

theorem texts_eq (b : DeclarationBlock) (written : List String) (ds : List Declaration) :
    b.texts written ds = (b.entriesFrom written ds).map Entry.text := by
  induction ds generalizing written with
  | nil => rfl
  | cons d ds ih =>
    simp only [texts, entriesFrom]
    split
    · exact ih written
    · cases b.combined? written d.name with
      | none => simp only [ih, List.map_cons, Entry.text, Entry.declaration]
      | some p => simp only [ih, List.map_cons, Entry.text, Entry.declaration]

theorem text_eq (b : DeclarationBlock) :
    b.text = String.intercalate " " (b.entries.map Entry.text) := by
  rw [text, texts_eq, entries]

/-- The properties that an entry declares. -/
def Entry.properties : Entry → List String
  | .own d => [d.name]
  | .combined s _ _ => s.longhands

/-- Whether an entry stems from the block. -/
def Entry.StemsFrom (b : DeclarationBlock) : Entry → Prop
  | .own d => d ∈ b.declarations
  | .combined s value important => b.shorthandValue? s = some (value, important)

theorem combined?_eq_some {written : List String} {s : Shorthand} {value : String}
    {important : Bool}
    (h : b.combined? written n = some (s, value, important)) :
    n ∈ s.longhands ∧ (∀ m ∈ s.longhands, m ∉ written) ∧
      b.shorthandValue? s = some (value, important) := by
  obtain ⟨s', hs', h⟩ := List.exists_of_findSome?_eq_some h
  split at h
  · simp at h
  · rename_i hnone
    obtain ⟨p, hp, hpair⟩ := Option.map_eq_some_iff.1 h
    simp only [Prod.mk.injEq] at hpair
    obtain ⟨rfl, rfl, rfl⟩ := hpair
    refine ⟨Shorthand.mem_longhands_of_mem_covering hs', fun m hm hwritten => ?_, hp⟩
    exact hnone (List.any_eq_true.2 ⟨m, hm, by simpa using hwritten⟩)

/-- One entry after the other: each stems from the block and declares properties that were not
written yet, and in the end all properties are. -/
theorem entriesFrom_spec {written : List String} {ds : List Declaration}
    (hds : ds ⊆ b.declarations) :
    (∀ e ∈ b.entriesFrom written ds, e.StemsFrom b) ∧
    ((b.entriesFrom written ds).flatMap Entry.properties).Nodup ∧
    (∀ n ∈ (b.entriesFrom written ds).flatMap Entry.properties, n ∉ written) ∧
    ∀ d ∈ ds, d.name ∈ written ∨ d.name ∈ (b.entriesFrom written ds).flatMap Entry.properties := by
  induction ds generalizing written with
  | nil => simp [entriesFrom]
  | cons d ds ih =>
    have hd : d ∈ b.declarations := hds List.mem_cons_self
    have hds' : ds ⊆ b.declarations := fun e he => hds (List.mem_cons_of_mem d he)
    -- what holds once an entry is put before the others, whatever it is
    have hput : ∀ e : Entry, e.StemsFrom b → d.name ∈ e.properties → e.properties.Nodup →
        (∀ n ∈ e.properties, n ∉ written) →
        (∀ e' ∈ e :: b.entriesFrom (e.properties ++ written) ds, e'.StemsFrom b) ∧
        ((e :: b.entriesFrom (e.properties ++ written) ds).flatMap Entry.properties).Nodup ∧
        (∀ n ∈ (e :: b.entriesFrom (e.properties ++ written) ds).flatMap Entry.properties,
          n ∉ written) ∧
        ∀ d' ∈ d :: ds, d'.name ∈ written ∨
          d'.name ∈ (e :: b.entriesFrom (e.properties ++ written) ds).flatMap Entry.properties := by
      intro e hstems hname hnodup hfresh
      obtain ⟨hmore, hnodup', hfresh', hall⟩ := @ih (e.properties ++ written) hds'
      rw [List.flatMap_cons]
      refine ⟨fun e' he' => ?_, ?_, fun n hn => ?_, fun d' hd' => ?_⟩
      · rcases List.mem_cons.1 he' with rfl | he'
        · exact hstems
        · exact hmore e' he'
      · refine List.nodup_append.2 ⟨hnodup, hnodup', ?_⟩
        rintro n hn _ hm rfl
        exact hfresh' n hm (List.mem_append_left written hn)
      · rcases List.mem_append.1 hn with hn | hn
        · exact hfresh n hn
        · exact fun hw => hfresh' n hn (List.mem_append_right _ hw)
      · rcases List.mem_cons.1 hd' with rfl | hd'
        · exact .inr (List.mem_append_left _ hname)
        · rcases hall d' hd' with hw | hn
          · exact (List.mem_append.1 hw).symm.imp_right (List.mem_append_left _)
          · exact .inr (List.mem_append_right _ hn)
    simp only [entriesFrom]
    split
    · rename_i hwritten
      obtain ⟨hmore, hnodup, hfresh, hall⟩ := @ih written hds'
      refine ⟨hmore, hnodup, hfresh, fun d' hd' => ?_⟩
      rcases List.mem_cons.1 hd' with rfl | hd'
      · exact .inl (by simpa using hwritten)
      · exact hall d' hd'
    · rename_i hwritten
      cases hcombined : b.combined? written d.name with
      | none =>
        exact hput (.own d) hd List.mem_cons_self (List.nodup_singleton _)
          (by simpa [Entry.properties] using hwritten)
      | some p =>
        obtain ⟨s, value, important⟩ := p
        obtain ⟨hname, hfresh, hvalue⟩ := combined?_eq_some hcombined
        exact hput (.combined s value important) hvalue hname s.nodup_longhands hfresh

/-! ### The block that the entries make -/

/-- A shorthand that has a value has all its longhands, with one priority. -/
theorem find?_of_shorthandValue? {s : Shorthand} {value : String} {important : Bool}
    (h : b.shorthandValue? s = some (value, important)) (hn : n ∈ s.longhands) :
    ∃ v, b.find? n = some ⟨n, v, important⟩ := by
  simp only [shorthandValue?, Option.bind_eq_bind, Option.bind_eq_some_iff] at h
  obtain ⟨ds, hds, first, hfirst, h⟩ := h
  obtain ⟨d, hd, hfind⟩ := (mapM_eq_some hds).2.2 n hn
  obtain ⟨-, rfl⟩ := mem_of_find? hfind
  split at h
  · rename_i hall
    simp only [Option.bind_eq_some_iff] at h
    obtain ⟨v, -, h⟩ := h
    have himportant : d.important = first.important := by
      simpa using List.all_eq_true.1 hall d hd
    have hfirst : first.important = important := (Prod.mk.inj (Option.some.inj h)).2
    exact ⟨d.value, by rw [hfind, ← hfirst, ← himportant]⟩
  · simp at h

theorem value_of_find? (hn : propertyName n = n) (h : b.find? n = some d) :
    b.value n = d.value := by
  simp [value, hn, lookup?, h]

/-- Whether a value of a shorthand, when it is read, makes the longhands what they are in the
block. -/
def Expands (b : DeclarationBlock) (s : Shorthand) (value : String) : Prop :=
  mentionsVariable value = false ∧
    s.expand? value = some (s.longhands.map fun n => (n, b.value n))

instance (s : Shorthand) (value : String) : Decidable (b.Expands s value) :=
  inferInstanceAs (Decidable (_ ∧ _))

theorem expansion_of_expands {s : Shorthand} {value : String} {important : Bool}
    (hvalue : b.shorthandValue? s = some (value, important)) {v : String} (h : b.Expands s v) :
    expansion ⟨s.name, v, important⟩ = s.longhands.filterMap b.find? := by
  have hexpandable : expandable? s.name v = some s := by
    rw [expandable?, h.1, Shorthand.ofName?_name]
    rfl
  have hfind : ∀ n ∈ s.longhands, b.find? n = some ⟨n, b.value n, important⟩ := by
    intro n hn
    obtain ⟨v, hfind⟩ := find?_of_shorthandValue? hvalue hn
    rw [hfind, value_of_find? (s.propertyName_of_mem_longhands hn) hfind]
  rw [List.filterMap_congr hfind]
  simp [expansion, hexpandable, h.2, Function.comp_def]

/-- A block has nothing but what was added. -/
theorem mem_foldl_add {ds : List Declaration}
    (h : d ∈ (ds.foldl DeclarationBlock.add b).declarations) :
    d ∈ b.declarations ∨ d ∈ ds := by
  induction ds generalizing b with
  | nil => exact .inl h
  | cons e ds ih =>
    rcases ih h with h | h
    · rcases add_cases b e with heq | heq <;> rw [heq] at h
      · exact .inl h
      · rcases List.mem_append.1 h with h | h
        · exact .inl (List.mem_of_mem_filter h)
        · exact .inr (List.mem_singleton.1 h ▸ List.mem_cons_self)
    · exact .inr (List.mem_cons_of_mem e h)

/-- Whether an entry, when it is read, makes the properties it is about what they are in the
block. -/
def Entry.GivesBack (b : DeclarationBlock) : Entry → Prop
  | .own _ => True
  | .combined s value _ => b.Expands s value

instance : ∀ e : Entry, Decidable (e.GivesBack b)
  | .own _ => inferInstanceAs (Decidable True)
  | .combined _ _ _ => inferInstanceAs (Decidable (b.Expands _ _))

theorem names_filterMap_find? (b : DeclarationBlock) (ns : List String) :
    (names (ns.filterMap b.find?)).Sublist ns := by
  induction ns with
  | nil => simp
  | cons n ns ih =>
    cases hfind : b.find? n with
    | none =>
      rw [List.filterMap_cons_none hfind]
      exact ih.cons n
    | some d =>
      rw [List.filterMap_cons_some hfind, names, List.map_cons, (mem_of_find? hfind).2]
      exact ih.cons_cons n

/-- The entries are about the properties of the block, and about each of them once. -/
theorem mem_filterMap_find? (hb : b.Flat) :
    d ∈ (b.entries.flatMap Entry.properties).filterMap b.find? ↔ d ∈ b.declarations := by
  obtain ⟨-, -, -, hall⟩ := entriesFrom_spec (b := b) (List.Subset.refl _)
  rw [List.mem_filterMap]
  constructor
  · rintro ⟨n, -, hfind⟩
    exact (mem_of_find? hfind).1
  · intro hd
    exact ⟨d.name, (hall d hd).resolve_left List.not_mem_nil, find?_of_mem hb.nodup hd⟩

theorem declarations_ofEntries (hb : b.Flat) (h : ∀ e ∈ b.entries, e.GivesBack b) :
    (ofDeclarations (b.entries.map Entry.declaration)).declarations =
      (b.entries.flatMap Entry.properties).filterMap b.find? := by
  obtain ⟨hstems, hnodup, -, -⟩ := entriesFrom_spec (b := b) (List.Subset.refl _)
  have hentry : ∀ e ∈ b.entries, expansion e.declaration = e.properties.filterMap b.find? := by
    intro e he
    cases e with
    | own d =>
      have hfind := find?_of_mem hb.nodup (hstems _ he)
      have hsettled := hb.settled d (hstems _ he)
      simp [expansion, Entry.declaration, Entry.properties, hfind, hsettled]
    | combined s value important =>
      exact expansion_of_expands (hstems _ he) (h _ he)
  have hexpansion : (b.entries.map Entry.declaration).flatMap expansion =
      (b.entries.flatMap Entry.properties).filterMap b.find? := by
    rw [List.flatMap_map, List.filterMap_flatMap]
    exact List.flatMap_congr hentry
  rw [ofDeclarations, hexpansion, foldl_add_of_nodup]
  · rfl
  · exact hnodup.sublist (names_filterMap_find? b _)

theorem filterMap_find?_names {ds : List Declaration} (hb : b.Flat) (h : ds ⊆ b.declarations) :
    (names ds).filterMap b.find? = ds := by
  rw [names, List.filterMap_map]
  exact (List.filterMap_congr fun d hd => find?_of_mem hb.nodup (h hd)).trans List.filterMap_some

/-- Where all entries are declarations of the block, they are all there are, in their order. -/
theorem entriesFrom_of_own {written : List String} {ds : List Declaration} (hds : (names ds).Nodup)
    (hfresh : ∀ d ∈ ds, d.name ∉ written)
    (h : ∀ e ∈ b.entriesFrom written ds, ∃ d, e = .own d) :
    b.entriesFrom written ds = ds.map .own := by
  induction ds generalizing written with
  | nil => rfl
  | cons d ds ih =>
    have hd : ¬ written.contains d.name := by
      simpa using hfresh d List.mem_cons_self
    simp only [entriesFrom, if_neg hd] at h ⊢
    cases hcombined : b.combined? written d.name with
    | some p =>
      rw [hcombined] at h
      obtain ⟨d', hd'⟩ := h _ List.mem_cons_self
      cases hd'
    | none =>
      simp only [hcombined] at h
      rw [names, List.map_cons, List.nodup_cons] at hds
      refine congrArg (Entry.own d :: ·) (ih hds.2 (fun e he hwritten => ?_) fun e he =>
        h e (List.mem_cons_of_mem _ he))
      rcases List.mem_cons.1 hwritten with heq | hwritten
      · exact hds.1 (heq ▸ List.mem_map_of_mem he)
      · exact hfresh e (List.mem_cons_of_mem d he) hwritten

/-- Where no shorthand is among the entries, they make the very block. -/
theorem ofEntries_of_own (hb : b.Flat) (h : ∀ e ∈ b.entries, ∃ d, e = .own d) :
    ofDeclarations (b.entries.map Entry.declaration) = b := by
  have hexpand : ∀ e ∈ b.entries, e.GivesBack b := fun e he => by
    obtain ⟨d, rfl⟩ := h e he
    trivial
  have hentries : b.entries = b.declarations.map .own :=
    entriesFrom_of_own hb.nodup (by simp) h
  have hproperties : b.entries.flatMap Entry.properties = names b.declarations := by
    rw [hentries, List.flatMap_map, names, List.map_eq_flatMap]
    rfl
  have hdeclarations := declarations_ofEntries hb hexpand
  rw [hproperties, filterMap_find?_names hb (List.Subset.refl _)] at hdeclarations
  exact congrArg DeclarationBlock.mk hdeclarations

/-- What an entry is expanded to are properties of that entry, or a shorthand that stays. -/
theorem mem_properties_of_mem_expansion (hb : b.Flat) {e : Entry} (he : e.StemsFrom b)
    (hd : d ∈ expansion e.declaration) (hn : Shorthand.ofName? d.name = none) :
    d.name ∈ e.properties := by
  cases e with
  | own d' =>
    rcases mem_expansion hd with ⟨rfl, -⟩ | ⟨s, hs, -⟩
    · exact List.mem_cons_self
    · have hsettled := hb.settled d' he
      simp only [Entry.declaration] at hs
      simp [hsettled] at hs
  | combined s value important =>
    rcases mem_expansion hd with ⟨rfl, -⟩ | ⟨t, ht, hlonghand⟩
    · simp [Entry.declaration, Shorthand.ofName?_name] at hn
    · obtain rfl := expandable?_name ht
      exact hlonghand

/-- A shorthand that is expanded to the declarations that the block has for its longhands makes them
what they are. -/
theorem expands_of_mem_expansion {s : Shorthand} {value : String} (important : Bool)
    (h : ∀ n ∈ s.longhands, ∃ d ∈ expansion ⟨s.name, value, important⟩, b.find? n = some d) :
    b.Expands s value := by
  obtain ⟨first, hfirst⟩ := List.exists_mem_of_ne_nil _ s.longhands_ne_nil
  cases hvariable : mentionsVariable value with
  | true =>
    -- the shorthand stays, and is no longhand
    obtain ⟨d, hd, hfind⟩ := h first hfirst
    have hname := (mem_of_find? hfind).2
    obtain rfl : d = ⟨s.name, value, important⟩ := by
      simpa [expansion, expandable?, hvariable] using hd
    have hnone := Shorthand.ofName?_of_mem_longhands hfirst
    rw [← hname, Shorthand.ofName?_name] at hnone
    simp at hnone
  | false =>
    have hexpansion : expansion ⟨s.name, value, important⟩ =
        ((s.expand? value).getD []).map fun p => ⟨p.1, p.2, important⟩ := by
      simp [expansion, expandable?, hvariable, Shorthand.ofName?_name]
    have hmem : ∀ n ∈ s.longhands, (n, b.value n) ∈ (s.expand? value).getD [] := by
      intro n hn
      obtain ⟨d, hd, hfind⟩ := h n hn
      rw [hexpansion] at hd
      obtain ⟨⟨m, v⟩, hmem, rfl⟩ := List.mem_map.1 hd
      obtain rfl := (mem_of_find? hfind).2
      rw [value_of_find? (s.propertyName_of_mem_longhands hn) hfind]
      exact hmem
    cases hpairs : s.expand? value with
    | none =>
      rw [hpairs] at hmem
      exact absurd (hmem first hfirst) List.not_mem_nil
    | some pairs =>
      rw [hpairs, Option.getD_some] at hmem
      have hkeys := Shorthand.keys_of_expand? hpairs
      have hpair : ∀ p ∈ pairs, (p.1, b.value p.1) = p := fun p hp =>
        List.inj_on_of_nodup_map (hkeys ▸ s.nodup_longhands)
          (hmem p.1 (hkeys ▸ List.mem_map_of_mem hp)) hp rfl
      refine ⟨hvariable, hpairs.trans (congrArg some ?_)⟩
      rw [← hkeys, List.map_map]
      exact ((List.map_congr_left hpair).trans (List.map_id pairs)).symm

/-- The declarations of the entries make a block that declares what the block declares just if each
of them gives back the properties it is about. -/
theorem mem_ofEntries_iff (hb : b.Flat) :
    (∀ d, d ∈ (ofDeclarations (b.entries.map Entry.declaration)).declarations ↔
      d ∈ b.declarations) ↔ ∀ e ∈ b.entries, e.GivesBack b := by
  obtain ⟨hstems, hnodup, -, -⟩ := entriesFrom_spec (b := b) (List.Subset.refl _)
  constructor
  · intro h e he
    cases e with
    | own d => trivial
    | combined s value important =>
    refine expands_of_mem_expansion important fun n hn => ?_
    obtain ⟨v, hfind⟩ := find?_of_shorthandValue? (hstems _ he) hn
    refine ⟨_, ?_, hfind⟩
    have hmem := (mem_foldl_add ((h _).2 (mem_of_find? hfind).1)).resolve_left List.not_mem_nil
    rw [List.flatMap_map, List.mem_flatMap] at hmem
    obtain ⟨e, he', hmem⟩ := hmem
    have hn' := mem_properties_of_mem_expansion hb (hstems e he') hmem
      (Shorthand.ofName?_of_mem_longhands hn)
    -- an entry for the same longhand is the same entry
    rw [eq_of_mem_of_nodup_flatMap hnodup he' he hn' hn] at hmem
    exact hmem
  · intro h d
    rw [declarations_ofEntries hb h, mem_filterMap_find? hb]

end DeclarationBlock
end WebStyle

namespace WebStyle

/-! ### Reading a text again -/

namespace DeclarationBlock

variable {b : DeclarationBlock}

theorem text_eq_declarations (b : DeclarationBlock) :
    b.text = String.intercalate " " ((b.entries.map Entry.declaration).map Declaration.text) := by
  rw [text_eq, List.map_map]
  rfl

/-- The declarations in the text of a block are found again, if each of them is legible. -/
theorem ofString_text (h : ∀ e ∈ b.entries, e.declaration.Legible) :
    ofString b.text = ofDeclarations (b.entries.map Entry.declaration) := by
  rw [ofString, text_eq_declarations, Declaration.listOfString_intercalate]
  intro d hd
  obtain ⟨e, he, rfl⟩ := List.mem_map.1 hd
  exact h e he

/-- When each declaration in the text of a block is legible, the text declares what the block
declares just if every shorthand that was written makes its longhands what they are in the block. -/
theorem declares_ofString_text_iff (hb : b.Flat) (h : ∀ e ∈ b.entries, e.declaration.Legible) :
    (∀ d, d ∈ (ofString b.text).declarations ↔ d ∈ b.declarations) ↔
      ∀ e ∈ b.entries, e.GivesBack b := by
  rw [ofString_text h]
  exact mem_ofEntries_iff hb

/-- Blocks that declare the same have the same values and priorities, of shorthands as well. -/
theorem value_and_isImportant_congr {b' : DeclarationBlock} (hb' : b'.Flat)
    (h : ∀ d, d ∈ b'.declarations ↔ d ∈ b.declarations) (name : String) :
    b'.value name = b.value name ∧ b'.isImportant name = b.isImportant name := by
  have hlookup := lookup?_congr (find?_eq_of_mem_iff hb'.nodup h) (propertyName name)
  simp only [value, isImportant, hlookup, and_self]

/-! ### Declarations of blocks that were read -/

theorem isSpelled_of_mem_longhands {s : Shorthand} {n : String} (h : n ∈ s.longhands) :
    Declaration.IsSpelled n := by
  have hall : ∀ n ∈ s.longhands, Text.lower n = n := by
    cases s <;> decide
  exact .inr (hall n h)

theorem isSpelled_of_mem_ofString {text : String} {d : Declaration}
    (h : d ∈ (ofString text).declarations) : Declaration.IsSpelled d.name := by
  have hmem := (mem_foldl_add h).resolve_left List.not_mem_nil
  obtain ⟨e, he, hd⟩ := List.mem_flatMap.1 hmem
  rcases mem_expansion hd with ⟨rfl, -⟩ | ⟨s, -, hlonghand⟩
  · obtain ⟨ts, -, hts⟩ := List.mem_filterMap.1 he
    exact Declaration.isSpelled_of_ofTokens? hts
  · exact isSpelled_of_mem_longhands hlonghand

theorem isSpelled_entry {text : String} {e : Entry} (h : e ∈ (ofString text).entries) :
    Declaration.IsSpelled e.declaration.name := by
  have hstems := (entriesFrom_spec (List.Subset.refl _)).1 e h
  cases e with
  | own d => exact isSpelled_of_mem_ofString hstems
  | combined s value important =>
    have hlower : Text.lower s.name = s.name := by
      cases s <;> decide
    exact .inr hlower

/-- **A block comes back from its text just if the shorthands in the text give their longhands
back**: when each declaration in the text is in canonical form, the text declares what the block
declares, with the same values and priorities, if and only if every shorthand that was written makes
its longhands what they are in the block; then all properties, longhand or shorthand, have the
values and the priorities that they had. A block in whose text no shorthand is written comes back as
it is, and so does its text. -/
theorem reread_declares_iff (text : String)
    (h : ∀ e ∈ (ofString text).entries, e.declaration.Contained) :
    ((∀ d, d ∈ (ofString (ofString text).text).declarations ↔ d ∈ (ofString text).declarations) ↔
      ∀ e ∈ (ofString text).entries, e.GivesBack (ofString text)) ∧
    ((∀ e ∈ (ofString text).entries, e.GivesBack (ofString text)) → ∀ name,
      (ofString (ofString text).text).value name = (ofString text).value name ∧
      (ofString (ofString text).text).isImportant name = (ofString text).isImportant name) ∧
    ((∀ e ∈ (ofString text).entries, ∃ d, e = .own d) →
      ofString (ofString text).text = ofString text) := by
  have hflat : (ofString text).Flat := flat_ofDeclarations _
  have hlegible : ∀ e ∈ (ofString text).entries, e.declaration.Legible := fun e he =>
    (h e he).legible (isSpelled_entry he)
  have hdeclares := declares_ofString_text_iff hflat hlegible
  refine ⟨hdeclares, fun hexpand => ?_, fun hown => ?_⟩
  · exact value_and_isImportant_congr (flat_ofDeclarations _) (hdeclares.2 hexpand)
  · rw [ofString_text hlegible]
    exact ofEntries_of_own hflat hown

theorem reread_declares_iff_margin :
    let b := ofString "margin: 1px 2px; color: red !important"
    b.entries = [.combined .margin "1px 2px" false, .own ⟨"color", "red", true⟩] ∧
    (∀ e ∈ b.entries, e.declaration.Contained) ∧ (∀ e ∈ b.entries, e.GivesBack b) ∧
    (∀ d, d ∈ (ofString b.text).declarations ↔ d ∈ b.declarations) ∧
    ∀ name, (ofString b.text).value name = b.value name ∧
      (ofString b.text).isImportant name = b.isImportant name := by
  have hcontained : ∀ e ∈ (ofString "margin: 1px 2px; color: red !important").entries,
      e.declaration.Contained := by decide +kernel
  have hback : ∀ e ∈ (ofString "margin: 1px 2px; color: red !important").entries,
      e.GivesBack (ofString "margin: 1px 2px; color: red !important") := by decide +kernel
  have hreread := reread_declares_iff "margin: 1px 2px; color: red !important" hcontained
  exact ⟨by decide +kernel, hcontained, hback, hreread.1.2 hback, hreread.2.1 hback⟩

/-- Margins that are calculated, one by one. -/
def calculatedMargins : String :=
  "margin-top: calc(1px + 2px); margin-right: calc(1px + 2px); " ++
  "margin-bottom: calc(1px + 2px); margin-left: calc(1px + 2px)"

/-- Not all values are given back: a shorthand is written for margins that are calculated, which the
shorthand does not take, and the margins are lost when the text is read. -/
theorem not_reread_calculatedMargins :
    let b := ofString calculatedMargins
    (∀ d ∈ b.declarations, d.name.toList.all Lexer.isNameChar ∧
      valueText? d.value = some d.value) ∧
    b.value "margin-top" = "calc(1px + 2px)" ∧ b.text = "margin: calc(1px + 2px);" ∧
    (ofString b.text).value "margin-top" = "" ∧ (ofString b.text).text = "" := by
  decide +kernel

/-- All widths of a border and one side of it, inherited. -/
def inheritedBorders : String :=
  "border-left-style: inherit; border-left-width: inherit; border-left-color: inherit; " ++
  "border-top-width: inherit; border-right-width: inherit; border-bottom-width: inherit"

/-- Where all values are given back, the text may still be another one the second time: the
longhands are in another order then, in which a more preferred shorthand comes first. -/
theorem text_reread_inheritedBorders :
    let b := ofString inheritedBorders
    (∀ e ∈ b.entries, e.declaration.Contained) ∧ (∀ e ∈ b.entries, e.GivesBack b) ∧
    b.text = "border-left: inherit; border-top-width: inherit; " ++
      "border-right-width: inherit; border-bottom-width: inherit;" ∧
    (ofString b.text).text = "border-width: inherit; " ++
      "border-left-style: inherit; border-left-color: inherit;" := by
  decide +kernel

end DeclarationBlock
end WebStyle
