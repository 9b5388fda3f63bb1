import Mathlib.Data.List.DropRight
import Mathlib.Data.List.Forall2
import WebStyle.Proofs.Token.Proper
import WebStyle.Style.Substitution
/-!
What a substitution asks for. It looks up the names of the references of a value one after the other,
those in a fallback only if it comes to that, and it depends on nothing but the answers.
-/
set_option autoImplicit false

namespace WebStyle
namespace Substitution

/-- A reference as it is read: its name and its fallback. What cannot be read is none. -/
abbrev Reference := Option (String × Option (List Token))

/-- The reference that a piece is, if it is one. -/
def Piece.reference? : Piece → Option Reference
  | .plain _ => none
  | .reference args => some (readReference? args)

theorem filterMap_plain_cons (t : Token) (ps : List Piece) :
    (Piece.plain t :: ps).filterMap Piece.reference? = ps.filterMap Piece.reference? := rfl

theorem filterMap_reference_cons (args : List Token) (ps : List Piece) :
    (Piece.reference args :: ps).filterMap Piece.reference? =
      readReference? args :: ps.filterMap Piece.reference? := rfl

/-- The references in a value that stand in no fallback of another. -/
def references (text : String) : List Reference :=
  (pieces (tokenize text)).filterMap Piece.reference?

/-- The names in a reference, given those in the text of its fallback. -/
def Reference.names (inner : String → List String) : Reference → List String
  | none => []
  | some (name, fallback) => name :: (fallback.map fun ts => inner (tokensText ts)).getD []

/-- The names in a value, as deep in fallbacks as the fuel goes. -/
def mentionedFuel : Nat → String → List String
  | 0, _ => []
  | fuel + 1, text => (references text).flatMap (Reference.names (mentionedFuel fuel))

/-- The names in a value, those in fallbacks included. -/
def mentioned (text : String) : List String := mentionedFuel (text.length + 1) text

theorem mem_mentioned_of_mem_references {text name : String} {fallback : Option (List Token)}
    (h : some (name, fallback) ∈ references text) : name ∈ mentioned text :=
  List.mem_flatMap.2 ⟨_, h, List.mem_cons_self⟩

theorem exists_function_of_reference {ts args : List Token} (h : .reference args ∈ pieces ts) :
    ∃ name, .function name ∈ ts := by
  fun_induction pieces ts with
  | case1 => cases h
  | case2 t r ht hlt ih =>
    cases t with
    | function name => exact ⟨name, List.mem_cons_self⟩
    | _ => simp [startsReference] at ht
  | case3 t r ht ih =>
    rcases List.mem_cons.1 h with heq | h
    · cases heq
    · obtain ⟨name, hname⟩ := ih h
      exact ⟨name, List.mem_cons_of_mem _ hname⟩

theorem references_of_notMem {text : String} (h : '(' ∉ text.toList) : references text = [] := by
  refine List.filterMap_eq_nil_iff.2 fun p hp => ?_
  cases p with
  | plain t => rfl
  | reference args =>
    obtain ⟨name, hname⟩ := exists_function_of_reference hp
    exact absurd hname (function_notMem_tokenize h name)

/-- A keyword refers to nothing. -/
theorem references_of_keyword {text keyword : String} (h : Text.lower (Text.trim text) = keyword)
    (hk : '(' ∉ keyword.toList) : references text = [] := by
  refine references_of_notMem fun hparen => hk ?_
  have hkept : ∀ {l : List Char}, '(' ∈ l → '(' ∈ l.dropWhile Text.isBlank := by
    intro l hl
    rw [← List.takeWhile_append_dropWhile (p := Text.isBlank) (l := l), List.mem_append] at hl
    refine hl.resolve_left fun hblank => ?_
    exact absurd (List.mem_takeWhile_imp hblank) (by decide)
  have htrim : '(' ∈ (Text.trim text).toList := by
    rw [Text.trim, String.toList_ofList, trimBy, List.mem_reverse]
    exact hkept (List.mem_reverse.2 (hkept hparen))
  rw [← h, Text.lower, String.toList_ofList]
  exact List.mem_map.2 ⟨'(', htrim, by decide⟩

/-! ### The text of a piece -/

section Pieces

variable {m : Type → Type} [Monad m]

/-- The text of a piece, given what becomes of fallbacks. -/
def pieceM (lookup inner : String → m (Option String)) : Piece → m (Option (List Char))
  | .plain t => pure (some t.chars)
  | .reference args =>
    match readReference? args with
    | none => pure none
    | some (name, fallback) => do
      match ← lookup name with
      | some value => pure (some (value.toList ++ [' ']))
      | none =>
        match fallback with
        | none => pure none
        | some ts => do
          let value ← inner (tokensText ts)
          pure (value.map (·.toList ++ [' ']))

theorem substituteFuelM_succ (lookup : String → m (Option String)) (fuel : Nat) (text : String) :
    substituteFuelM lookup (fuel + 1) text =
      (do
        let joined ← joinM (pieceM lookup (substituteFuelM lookup fuel)) (pieces (tokenize text))
        pure (joined.map fun cs => tokensText (tokenize (String.ofList cs)))) := rfl

end Pieces

/-! ### What is asked -/

variable {σ : Type} {lookup : String → StateM σ (Option String)}

/-- Lookups one after the other, each with its answer, from one state to another. -/
inductive Asks (lookup : String → StateM σ (Option String)) :
    σ → List (String × Option String) → σ → Prop where
  | nil (p : σ) : Asks lookup p [] p
  | cons {p p' : σ} {l : List (String × Option String)} (name : String)
    (h : Asks lookup ((lookup name).run p).2 l p') :
    Asks lookup p ((name, ((lookup name).run p).1) :: l) p'

namespace Asks

variable {p p' p'' : σ} {l l' : List (String × Option String)}

theorem append (h : Asks lookup p l p') (h' : Asks lookup p' l' p'') :
    Asks lookup p (l ++ l') p'' := by
  induction h with
  | nil => exact h'
  | cons name _ ih => exact .cons name (ih h')

theorem split (h : Asks lookup p (l ++ l') p'') :
    ∃ p', Asks lookup p l p' ∧ Asks lookup p' l' p'' := by
  induction l generalizing p with
  | nil => exact ⟨p, .nil p, h⟩
  | cons q l ih =>
    cases h with
    | cons name h =>
      obtain ⟨p', hl, hl'⟩ := ih h
      exact ⟨p', .cons name hl, hl'⟩

end Asks

/-- A lookup that notes down what it is asked for. -/
def noting (f : String → Option String) (name : String) : StateM (List String) (Option String) :=
  fun log => (f name, log ++ [name])

/-- The names that a substitution asks for, given the values of all. -/
def asked (f : String → Option String) (text : String) : List String :=
  ((substituteM (noting f) text).run []).2

/-- What the lookups of a run have to do with its result. -/
structure Consults {β : Type} (lookup : String → StateM σ (Option String)) (names : List String)
    (p : σ) (run : Option β × σ) (result : (String → Option String) → Option β)
    (noted : (String → Option String) → StateM (List String) (Option β))
    (l : List (String × Option String)) : Prop where
  asks : Asks lookup p l run.2
  /-- Only some names are asked for. -/
  names : ∀ q ∈ l, q.1 ∈ names
  /-- The result is the one for any function that answers alike. -/
  result : ∀ f : String → Option String, (∀ q ∈ l, f q.1 = q.2) → run.1 = result f
  /-- And the same names are noted down for it. -/
  noted : ∀ f : String → Option String, (∀ q ∈ l, f q.1 = q.2) →
    ∀ log, (noted f).run log = (run.1, log ++ l.map Prod.fst)

/-- How far the lookups of a run go through its references. -/
structure Covers (refs : List Reference) (success : Bool) (l : List (String × Option String)) :
    Prop where
  complete : success → ∀ name fallback, some (name, fallback) ∈ refs → name ∈ l.map Prod.fst
  /-- A success has an answer for each reference without a fallback. -/
  answered : success → ∀ name, some (name, none) ∈ refs → ∃ v, (name, some v) ∈ l

namespace Covers

variable {ref : Reference} {refs : List Reference} {success : Bool}
  {l l' : List (String × Option String)}

theorem nil (success : Bool) : Covers [] success [] where
  complete _ _ _ h := absurd h List.not_mem_nil
  answered _ _ h := absurd h List.not_mem_nil

theorem mono {success' : Bool} (h : Covers refs success l) (hs : success' → success) :
    Covers refs success' l :=
  ⟨fun h' => h.complete (hs h'), fun h' => h.answered (hs h')⟩

/-- Nothing is to be covered without a success. -/
theorem failure (refs : List Reference) (l : List (String × Option String)) :
    Covers refs false l where
  complete hs := absurd hs Bool.false_ne_true
  answered hs := absurd hs Bool.false_ne_true

/-- A reference that has a text, and those after it. -/
theorem cons {name : String} {fallback : Option (List Token)} {a : Option String}
    (hfallback : fallback = none → a.isSome)
    (h : Covers refs success l') :
    Covers (some (name, fallback) :: refs) success ((name, a) :: l ++ l') where
  complete hs x b hx := by
    rcases List.mem_cons.1 hx with heq | hx
    · obtain ⟨rfl, rfl⟩ := Prod.mk.inj (Option.some.inj heq)
      simp
    · have := h.complete hs x b hx
      simp_all
  answered hs x hx := by
    rcases List.mem_cons.1 hx with heq | hx
    · obtain ⟨rfl, rfl⟩ := Prod.mk.inj (Option.some.inj heq)
      obtain ⟨v, rfl⟩ := Option.isSome_iff_exists.1 (hfallback rfl)
      exact ⟨v, by simp⟩
    · obtain ⟨v, hv⟩ := h.answered hs x hx
      exact ⟨v, by simp [hv]⟩

end Covers

section Runs

variable {p : σ} {inner : String → StateM σ (Option String)} {innerNames : String → List String}
  {pureInner : (String → Option String) → String → Option String}
  {notingInner : (String → Option String) → String → StateM (List String) (Option String)}

theorem run_pieceM_plain (t : Token) :
    (pieceM lookup inner (.plain t)).run p = (some t.chars, p) := rfl

theorem run_pieceM_of_none {args : List Token} (h : readReference? args = none) :
    (pieceM lookup inner (.reference args)).run p = (none, p) := by
  simp only [pieceM, h]
  rfl

/-- A piece that asks for a name, and for its fallback only without an answer. -/
theorem run_pieceM_reference {args : List Token} {name : String} {fallback : Option (List Token)}
    (h : readReference? args = some (name, fallback)) :
    (pieceM lookup inner (.reference args)).run p =
      match (lookup name).run p with
      | (some v, p') => (some (v.toList ++ [' ']), p')
      | (none, p') =>
        match fallback with
        | none => (none, p')
        | some ts => (((inner (tokensText ts)).run p').1.map (·.toList ++ [' ']),
            ((inner (tokensText ts)).run p').2) := by
  simp only [pieceM, h]
  refine (StateT.run_bind (lookup name) _ p).trans ?_
  cases hrun : (lookup name).run p with
  | mk a p' =>
    cases a with
    | some v => rfl
    | none => cases fallback <;> rfl

theorem run_joinM_cons {α : Type} (text : α → StateM σ (Option (List Char))) (a : α) (l : List α)
    (p : σ) :
    (joinM text (a :: l)).run p =
      match (text a).run p with
      | (none, p') => (none, p')
      | (some cs, p') =>
        (((joinM text l).run p').1.map (cs ++ ·), ((joinM text l).run p').2) := by
  rw [joinM, StateT.run_bind]
  cases hrun : (text a).run p with
  | mk cs p' =>
    cases cs with
    | none => rfl
    | some cs =>
      refine (StateT.run_bind (joinM text l) _ p').trans ?_
      simp only
      cases (joinM text l).run p' with
      | mk more p'' => cases more <;> rfl

theorem joinM_id_cons {α : Type} (text : α → Id (Option (List Char))) (a : α) (l : List α) :
    joinM (m := Id) text (a :: l) =
      (text a).bind fun cs => (joinM (m := Id) text l).map (cs ++ ·) := by
  rw [joinM]
  obtain _ | cs : Option (List Char) := text a
  · rfl
  · obtain _ | more : Option (List Char) := joinM (m := Id) text l <;> rfl

/-- Whether what becomes of fallbacks asks for names in them, and depends on the answers only. -/
def Consulted (lookup inner : String → StateM σ (Option String))
    (innerNames : String → List String)
    (pureInner : (String → Option String) → String → Option String)
    (notingInner : (String → Option String) → String → StateM (List String) (Option String)) :
    Prop :=
  ∀ (text : String) (p : σ), ∃ l,
    Consults lookup (innerNames text) p ((inner text).run p) (pureInner · text)
      (notingInner · text) l

/-- A reference that can be read asks for its name first, and for names in its fallback only without
an answer. -/
theorem exists_consults_reference (ih : Consulted lookup inner innerNames pureInner notingInner)
    {args : List Token} {name : String} {fallback : Option (List Token)}
    (h : readReference? args = some (name, fallback)) (p : σ) :
    ∃ a l, Consults lookup (Reference.names innerNames (some (name, fallback))) p
      ((pieceM lookup inner (.reference args)).run p)
      (fun f => pieceM (m := Id) f (pureInner f) (.reference args))
      (fun f => pieceM (noting f) (notingInner f) (.reference args)) ((name, a) :: l) ∧
      (fallback = none → ((pieceM lookup inner (.reference args)).run p).1.isSome → a.isSome) := by
  have hpure : ∀ f : String → Option String,
      pieceM (m := Id) f (pureInner f) (.reference args) = match f name with
        | some v => some (v.toList ++ [' '])
        | none => fallback.bind fun ts => (pureInner f (tokensText ts)).map (·.toList ++ [' ']) := by
    intro f
    simp only [pieceM, h]
    cases f name with
    | some v => rfl
    | none => cases fallback <;> rfl
  have hnoting : ∀ f log, (noting f name).run log = (f name, log ++ [name]) := fun _ _ => rfl
  have hname : name ∈ Reference.names innerNames (some (name, fallback)) := List.mem_cons_self
  have hasks : ∀ l p', Asks lookup ((lookup name).run p).2 l p' →
      Asks lookup p ((name, ((lookup name).run p).1) :: l) p' := fun l p' => .cons name
  rw [run_pieceM_reference h]
  simp only [hpure]
  generalize (lookup name).run p = answer at hasks
  obtain ⟨a, p₁⟩ := answer
  cases a with
  | some v =>
    refine ⟨some v, [], ⟨hasks _ _ (.nil p₁), by simpa using hname, fun f hf => ?_,
      fun f hf log => ?_⟩, fun _ _ => rfl⟩
    · simp [show f name = some v from hf _ List.mem_cons_self]
    · rw [run_pieceM_reference h, hnoting, show f name = some v from hf _ List.mem_cons_self]
      rfl
  | none =>
    cases fallback with
    | none =>
      refine ⟨none, [], ⟨hasks _ _ (.nil p₁), by simpa using hname, fun f hf => ?_,
        fun f hf log => ?_⟩, by simp⟩
      · simp [show f name = none from hf _ List.mem_cons_self]
      · rw [run_pieceM_reference h, hnoting, show f name = none from hf _ List.mem_cons_self]
        rfl
    | some ts =>
      obtain ⟨l, hl⟩ := ih (tokensText ts) p₁
      refine ⟨none, l, ⟨hasks _ _ hl.asks, ?_, fun f hf => ?_, fun f hf log => ?_⟩, by simp⟩
      · rintro q hq
        rcases List.mem_cons.1 hq with rfl | hq
        · exact hname
        · exact List.mem_cons_of_mem _ (hl.names q hq)
      · have hrest := hl.result f fun q hq => hf q (List.mem_cons_of_mem _ hq)
        simp [show f name = none from hf _ List.mem_cons_self, hrest]
      · have hrest := hl.noted f fun q hq => hf q (List.mem_cons_of_mem _ hq)
        rw [run_pieceM_reference h, hnoting, show f name = none from hf _ List.mem_cons_self]
        simp [hrest]

/-- Pieces ask one after the other, until one of them has no text. -/
theorem exists_consults_joinM (ih : Consulted lookup inner innerNames pureInner notingInner)
    (ps : List Piece) (p : σ) :
    ∃ l, Consults lookup ((ps.filterMap Piece.reference?).flatMap (Reference.names innerNames)) p
      ((joinM (pieceM lookup inner) ps).run p)
      (fun f => joinM (m := Id) (pieceM (m := Id) f (pureInner f)) ps)
      (fun f => joinM (pieceM (noting f) (notingInner f)) ps) l ∧
      Covers (ps.filterMap Piece.reference?) ((joinM (pieceM lookup inner) ps).run p).1.isSome l := by
  induction ps generalizing p with
  | nil =>
    refine ⟨[], ⟨.nil p, by simp, fun f _ => rfl, fun f _ log => ?_⟩, .nil _⟩
    rw [List.map_nil, List.append_nil]
    rfl
  | cons piece ps ih' =>
    rw [run_joinM_cons]
    simp only [joinM_id_cons]
    cases piece with
    | plain t =>
      obtain ⟨l, hl, hc⟩ := ih' p
      rw [run_pieceM_plain]
      refine ⟨l, ⟨hl.asks, hl.names, fun f hf => ?_, fun f hf log => ?_⟩, ?_⟩
      · exact congrArg (Option.map (t.chars ++ ·)) (hl.result f hf)
      · rw [run_joinM_cons, run_pieceM_plain]
        simp only [hl.noted f hf]
      · simpa only [filterMap_plain_cons, Option.isSome_map] using hc
    | reference args =>
      rw [filterMap_reference_cons, List.flatMap_cons]
      cases href : readReference? args with
      | none =>
        rw [run_pieceM_of_none href]
        refine ⟨[], ⟨.nil p, by simp, fun f _ => ?_, fun f _ log => ?_⟩, .failure _ _⟩
        · simp only [pieceM, href]
          rfl
        · rw [run_joinM_cons, run_pieceM_of_none href]
          simp
      | some ref =>
        obtain ⟨name, fallback⟩ := ref
        obtain ⟨a, l, ⟨hasks, hnames, hresult, hnoted⟩, hbare⟩ :=
          exists_consults_reference ih href p
        generalize (pieceM lookup inner (.reference args)).run p = run at *
        obtain ⟨cs, p₁⟩ := run
        cases cs with
        | none =>
          refine ⟨_, ⟨hasks, fun q hq => List.mem_append_left _ (hnames q hq), fun f hf => ?_,
            fun f hf log => ?_⟩, .failure _ _⟩
          · rw [← hresult f hf]
            rfl
          · rw [run_joinM_cons, hnoted f hf]
        | some cs =>
          obtain ⟨l', hl', hc⟩ := ih' p₁
          have hsplit : ∀ {f : String → Option String}, (∀ q ∈ (name, a) :: l ++ l', f q.1 = q.2) →
              (∀ q ∈ (name, a) :: l, f q.1 = q.2) ∧ ∀ q ∈ l', f q.1 = q.2 := fun hf =>
            ⟨fun q hq => hf q (List.mem_append_left _ hq),
              fun q hq => hf q (List.mem_append_right _ hq)⟩
          refine ⟨(name, a) :: l ++ l', ⟨hasks.append hl'.asks, fun q hq => ?_, fun f hf => ?_,
            fun f hf log => ?_⟩, ?_⟩
          · rw [List.mem_append] at hq ⊢
            exact hq.imp (hnames q) (hl'.names q)
          · rw [← hresult f (hsplit hf).1]
            exact congrArg (Option.map (cs ++ ·)) (hl'.result f (hsplit hf).2)
          · rw [run_joinM_cons, hnoted f (hsplit hf).1]
            simp [hl'.noted f (hsplit hf).2]
          · simp only [Option.isSome_map]
            exact .cons (fun hb => hbare hb rfl) hc

end Runs

/-- A substitution with fuel asks for names in the value, and takes its references in turn. -/
theorem exists_consults_substituteFuelM (lookup : String → StateM σ (Option String)) (fuel : Nat)
    (text : String) (p : σ) :
    ∃ l, Consults lookup (mentionedFuel fuel text) p ((substituteFuelM lookup fuel text).run p)
      (fun f => substituteFuelM (m := Id) f fuel text)
      (fun f => substituteFuelM (noting f) fuel text) l ∧
      (0 < fuel → Covers (references text) ((substituteFuelM lookup fuel text).run p).1.isSome l) := by
  induction fuel generalizing text p with
  | zero =>
    refine ⟨[], ⟨.nil p, by simp, fun f _ => rfl, fun f _ log => ?_⟩, by simp⟩
    rw [List.map_nil, List.append_nil]
    rfl
  | succ fuel ih =>
    obtain ⟨l, hl, hc⟩ := exists_consults_joinM (fun text p => (ih text p).imp fun _ h => h.1)
      (pieces (tokenize text)) p
    have hrun : ∀ {τ : Type} (lookup : String → StateM τ (Option String)) (p : τ),
        (substituteFuelM lookup (fuel + 1) text).run p =
          (((joinM (pieceM lookup (substituteFuelM lookup fuel))
              (pieces (tokenize text))).run p).1.map
            fun cs => tokensText (tokenize (String.ofList cs)),
          ((joinM (pieceM lookup (substituteFuelM lookup fuel))
            (pieces (tokenize text))).run p).2) := fun _ _ => rfl
    rw [hrun]
    refine ⟨l, ⟨hl.asks, hl.names, fun f hf => ?_, fun f hf log => ?_⟩, fun _ => ?_⟩
    · exact congrArg (Option.map _) (hl.result f hf)
    · rw [hrun, hl.noted f hf]
    · rw [Option.isSome_map]
      exact hc

/-- A substitution asks for names in the value, and takes its references in turn. -/
theorem exists_consults_substituteM (lookup : String → StateM σ (Option String)) (text : String)
    (p : σ) :
    ∃ l, Consults lookup (mentioned text) p ((substituteM lookup text).run p)
      (fun f => substitute? f text) (fun f => substituteM (noting f) text) l ∧
      Covers (references text) ((substituteM lookup text).run p).1.isSome l := by
  obtain ⟨l, hl, hc⟩ := exists_consults_substituteFuelM lookup (text.length + 1) text p
  exact ⟨l, hl, hc (Nat.succ_pos _)⟩

/-- With the answers of a run, a substitution asks for what the run asked for. -/
theorem Consults.asked_eq {names : List String} {p : σ} {run : Option String × σ} {text : String}
    {result : (String → Option String) → Option String} {l : List (String × Option String)}
    (h : Consults lookup names p run result (fun f => substituteM (noting f) text) l)
    {f : String → Option String} (hf : ∀ q ∈ l, f q.1 = q.2) : asked f text = l.map Prod.fst := by
  rw [asked, h.noted f hf]
  rfl

/-- The answers of a lookup that does not depend on what is known. -/
theorem eq_of_asks_pure {f : String → Option String} {p p' : σ}
    {l : List (String × Option String)} (h : Asks (fun name => pure (f name)) p l p') :
    ∀ q ∈ l, f q.1 = q.2 := by
  induction h with
  | nil => simp
  | cons name _ ih => exact List.forall_mem_cons.2 ⟨rfl, ih⟩

/-- With given values, what a substitution asks for and its result are the same for all that agree on
the answers. -/
theorem exists_asked (f : String → Option String) (text : String) :
    ∃ l : List (String × Option String), asked f text = l.map Prod.fst ∧
      (∀ q ∈ l, q.1 ∈ mentioned text ∧ f q.1 = q.2) ∧
      ∀ g : String → Option String, (∀ q ∈ l, g q.1 = q.2) →
        substitute? f text = substitute? g text ∧ asked f text = asked g text := by
  obtain ⟨l, hl, -⟩ :=
    exists_consults_substituteM (σ := Unit) (fun name => pure (f name)) text ()
  have hf := eq_of_asks_pure hl.asks
  refine ⟨l, hl.asked_eq hf, fun q hq => ⟨hl.names q hq, hf q hq⟩, fun g hg => ⟨?_, ?_⟩⟩
  · exact (hl.result f hf).symm.trans (hl.result g hg)
  · rw [hl.asked_eq hf, hl.asked_eq hg]

section Congr

variable {f g : String → Option String} {text : String}

theorem asked_subset (f : String → Option String) (text : String) :
    asked f text ⊆ mentioned text := by
  obtain ⟨l, heq, hl, -⟩ := exists_asked f text
  intro name hname
  obtain ⟨q, hq, rfl⟩ := List.mem_map.1 (heq ▸ hname)
  exact (hl q hq).1

theorem same_of_forall_asked (h : ∀ name ∈ asked f text, f name = g name) :
    substitute? f text = substitute? g text ∧ asked f text = asked g text := by
  obtain ⟨l, heq, hl, hsame⟩ := exists_asked f text
  refine hsame g fun q hq => ?_
  rw [← h q.1 (heq ▸ List.mem_map_of_mem hq), (hl q hq).2]

/-- A substitution depends on the values of the names that it asks for only. -/
theorem substitute?_congr (h : ∀ name ∈ asked f text, f name = g name) :
    substitute? f text = substitute? g text := (same_of_forall_asked h).1

/-- And so does what it asks for. -/
theorem asked_congr (h : ∀ name ∈ asked f text, f name = g name) :
    asked f text = asked g text := (same_of_forall_asked h).2

end Congr

/-! ### Other names -/

/-- Whether a reference becomes another when names are changed. -/
inductive Reference.Renamed (ρ : String → String) (inner : String → String → Prop) :
    Reference → Reference → Prop where
  | unreadable : Reference.Renamed ρ inner none none
  | bare (name : String) : Reference.Renamed ρ inner (some (name, none)) (some (ρ name, none))
  | withFallback (name : String) {ts ts' : List Token}
    (h : inner (tokensText ts) (tokensText ts')) :
    Reference.Renamed ρ inner (some (name, some ts)) (some (ρ name, some ts'))

/-- Whether a piece becomes another when names are changed; this changes nothing but references. -/
inductive Piece.Renamed (ρ : String → String) (inner : String → String → Prop) :
    Piece → Piece → Prop where
  | plain (t : Token) : Piece.Renamed ρ inner (.plain t) (.plain t)
  | reference {args args' : List Token}
    (h : Reference.Renamed ρ inner (readReference? args) (readReference? args')) :
    Piece.Renamed ρ inner (.reference args) (.reference args')

/-- Whether a text becomes another when names are changed, in fallbacks as well. These nest less
deep than the fuel goes. -/
def RenamedFuel (ρ : String → String) : Nat → String → String → Prop
  | 0, _, _ => False
  | fuel + 1, text, text' => List.Forall₂ (Piece.Renamed ρ (RenamedFuel ρ fuel))
      (pieces (tokenize text)) (pieces (tokenize text'))

/-- Whether a text becomes another when the names in its references are changed. Fallbacks do not
nest deeper than texts are long. -/
def Renamed (ρ : String → String) (text text' : String) : Prop :=
  RenamedFuel ρ (min text.length text'.length + 1) text text'

section Renaming

variable {ρ : String → String} {inner : String → String → Prop}

instance decidableReference [∀ text text', Decidable (inner text text')] :
    ∀ ref ref', Decidable (Reference.Renamed ρ inner ref ref')
  | none, none => isTrue .unreadable
  | none, some _ => isFalse nofun
  | some _, none => isFalse nofun
  | some (name, none), some (name', none) => decidable_of_iff (name' = ρ name)
      ⟨by rintro rfl; exact .bare name, by rintro ⟨⟩; rfl⟩
  | some (_, none), some (_, some _) => isFalse nofun
  | some (_, some _), some (_, none) => isFalse nofun
  | some (name, some ts), some (name', some ts') =>
    decidable_of_iff (name' = ρ name ∧ inner (tokensText ts) (tokensText ts'))
      ⟨by rintro ⟨rfl, h⟩; exact .withFallback name h, by rintro (_ | _ | ⟨_, h⟩); exact ⟨rfl, h⟩⟩

instance decidablePiece [∀ text text', Decidable (inner text text')] :
    ∀ piece piece', Decidable (Piece.Renamed ρ inner piece piece')
  | .plain t, .plain t' => decidable_of_iff (t' = t)
      ⟨by rintro rfl; exact .plain t', by rintro ⟨⟩; rfl⟩
  | .plain _, .reference _ => isFalse nofun
  | .reference _, .plain _ => isFalse nofun
  | .reference args, .reference args' =>
    decidable_of_iff (Reference.Renamed ρ inner (readReference? args) (readReference? args'))
      ⟨.reference, by rintro ⟨⟩; assumption⟩

instance decidableRenamedFuel : ∀ fuel text text', Decidable (RenamedFuel ρ fuel text text')
  | 0, _, _ => isFalse id
  | fuel + 1, text, text' =>
    have := decidableRenamedFuel fuel
    inferInstanceAs (Decidable (List.Forall₂ (Piece.Renamed ρ (RenamedFuel ρ fuel))
      (pieces (tokenize text)) (pieces (tokenize text'))))

instance decidableRenamed (text text' : String) : Decidable (Renamed ρ text text') :=
  inferInstanceAs (Decidable (RenamedFuel ρ _ text text'))

theorem forall₂_references {ps ps' : List Piece} (h : List.Forall₂ (Piece.Renamed ρ inner) ps ps') :
    List.Forall₂ (Reference.Renamed ρ inner) (ps.filterMap Piece.reference?)
      (ps'.filterMap Piece.reference?) := by
  induction h with
  | nil => exact .nil
  | cons hp _ ih =>
    cases hp with
    | plain t => exact ih
    | reference hr => exact .cons hr ih

theorem bare_mem_of_renamed {refs refs' : List Reference} {name : String}
    (h : List.Forall₂ (Reference.Renamed ρ inner) refs refs') (hname : some (name, none) ∈ refs) :
    some (ρ name, none) ∈ refs' := by
  induction h with
  | nil => cases hname
  | cons hr _ ih =>
    rcases List.mem_cons.1 hname with rfl | hname
    · cases hr with
      | bare => exact List.mem_cons_self
    · exact List.mem_cons_of_mem _ (ih hname)

theorem mentionedFuel_of_renamed {k fuel fuel' : Nat} {text text' : String}
    (h : RenamedFuel ρ k text text') (hf : k ≤ fuel) (hf' : k ≤ fuel') :
    mentionedFuel fuel' text' = (mentionedFuel fuel text).map ρ := by
  induction k generalizing fuel fuel' text text' with
  | zero => exact h.elim
  | succ k ih =>
    obtain ⟨fuel, rfl⟩ := Nat.exists_eq_succ_of_ne_zero (by omega : fuel ≠ 0)
    obtain ⟨fuel', rfl⟩ := Nat.exists_eq_succ_of_ne_zero (by omega : fuel' ≠ 0)
    have hnames : ∀ {refs refs'}, List.Forall₂ (Reference.Renamed ρ (RenamedFuel ρ k)) refs refs' →
        refs'.flatMap (Reference.names (mentionedFuel fuel')) =
          (refs.flatMap (Reference.names (mentionedFuel fuel))).map ρ := by
      intro refs refs' hrefs
      induction hrefs with
      | nil => rfl
      | cons hr _ ihrefs =>
        rw [List.flatMap_cons, List.flatMap_cons, List.map_append, ihrefs]
        congr 1
        cases hr with
        | unreadable => rfl
        | bare name => rfl
        | withFallback name hi =>
          simp [Reference.names, ih hi (Nat.le_of_succ_le_succ hf) (Nat.le_of_succ_le_succ hf')]
    exact hnames (forall₂_references h)

theorem substituteFuelM_of_renamed {m : Type → Type} [Monad m] {k fuel fuel' : Nat}
    {text text' : String} (h : RenamedFuel ρ k text text') (hf : k ≤ fuel) (hf' : k ≤ fuel')
    (lookup : String → m (Option String)) :
    substituteFuelM lookup fuel' text' =
      substituteFuelM (fun name => lookup (ρ name)) fuel text := by
  induction k generalizing fuel fuel' text text' with
  | zero => exact h.elim
  | succ k ih =>
    obtain ⟨fuel, rfl⟩ := Nat.exists_eq_succ_of_ne_zero (by omega : fuel ≠ 0)
    obtain ⟨fuel', rfl⟩ := Nat.exists_eq_succ_of_ne_zero (by omega : fuel' ≠ 0)
    have hjoin : ∀ {ps ps'}, List.Forall₂ (Piece.Renamed ρ (RenamedFuel ρ k)) ps ps' →
        joinM (pieceM lookup (substituteFuelM lookup fuel')) ps' =
          joinM (pieceM (fun name => lookup (ρ name))
            (substituteFuelM (fun name => lookup (ρ name)) fuel)) ps := by
      intro ps ps' hps
      induction hps with
      | nil => rfl
      | cons hp _ ihps =>
        rw [joinM, joinM, ihps]
        congr 1
        cases hp with
        | plain t => rfl
        | @reference args args' hr =>
          simp only [pieceM]
          generalize readReference? args = ref at hr
          generalize readReference? args' = ref' at hr
          cases hr with
          | unreadable => rfl
          | bare name => rfl
          | withFallback name hi =>
            simp only [ih hi (Nat.le_of_succ_le_succ hf) (Nat.le_of_succ_le_succ hf')]
    rw [substituteFuelM_succ, substituteFuelM_succ, hjoin h]

theorem substituteM_of_renamed {m : Type → Type} [Monad m] {text text' : String}
    (h : Renamed ρ text text') (lookup : String → m (Option String)) :
    substituteM lookup text' = substituteM (fun name => lookup (ρ name)) text :=
  substituteFuelM_of_renamed h (by omega) (by omega) lookup

theorem substitute?_of_renamed {text text' : String} (h : Renamed ρ text text')
    (f : String → Option String) :
    substitute? f text' = substitute? (fun name => f (ρ name)) text :=
  substituteM_of_renamed (m := Id) h f

/-- What is noted down under other names. -/
theorem eq_of_asks_noting {f : String → Option String} {log log' : List String}
    {l : List (String × Option String)} (h : Asks (fun name => noting f (ρ name)) log l log') :
    (∀ q ∈ l, f (ρ q.1) = q.2) ∧ log' = log ++ (l.map Prod.fst).map ρ := by
  induction h with
  | nil => simp
  | cons name _ ih =>
    refine ⟨List.forall_mem_cons.2 ⟨rfl, ih.1⟩, ih.2.trans ?_⟩
    simp [noting, StateT.run]

theorem asked_of_renamed {text text' : String} (h : Renamed ρ text text')
    (f : String → Option String) :
    asked f text' = (asked (fun name => f (ρ name)) text).map ρ := by
  rw [asked, substituteM_of_renamed h]
  obtain ⟨l, hl, -⟩ := exists_consults_substituteM (fun name => noting f (ρ name)) text []
  obtain ⟨hf, hlog⟩ := eq_of_asks_noting hl.asks
  rw [hl.asked_eq hf, hlog, List.nil_append]

theorem mentioned_of_renamed {text text' : String} (h : Renamed ρ text text') :
    mentioned text' = (mentioned text).map ρ :=
  mentionedFuel_of_renamed h (by omega) (by omega)

end Renaming

end Substitution
end WebStyle
