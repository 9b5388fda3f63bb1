import WebStyle.Proofs.Style.References
import WebStyle.Proofs.Token.Spelled
/-!
Substitution by tokens. A value with its references replaced is put together as a text, in which a
blank stands after each value that is put in but none before it, and read again; its canonical text
is that of its tokens with the references replaced by tokens, unless tokens that come to stand side
by side cling together.
-/
set_option autoImplicit false

namespace WebStyle
namespace Substitution

open Lexer Printer

variable {lookup : String → Option String} {ps : List Piece} {ts : List Token}

/-- Pieces as tokens, with the tokens of a value or of a substituted fallback in the place of each
reference, and the blank that is put after them. -/
inductive Replaced (lookup : String → Option String) : List Piece → List Token → Prop
  | nil : Replaced lookup [] []
  | plain (t : Token) {ps : List Piece} {ts : List Token} (h : Replaced lookup ps ts) :
    Replaced lookup (.plain t :: ps) (t :: ts)
  | value {args : List Token} {name x : String} {fallback : Option (List Token)}
    {ps : List Piece} {ts : List Token} (hargs : readReference? args = some (name, fallback))
    (hx : lookup name = some x) (h : Replaced lookup ps ts) :
    Replaced lookup (.reference args :: ps) (skipBlanks (tokenize x) ++ .blank :: ts)
  | fallback {args inner us : List Token} {name : String} {ps : List Piece} {ts : List Token}
    (hargs : readReference? args = some (name, some inner)) (hnone : lookup name = none)
    (hinner : Replaced lookup (pieces (tokenize (tokensText inner))) us)
    (h : Replaced lookup ps ts) :
    Replaced lookup (.reference args :: ps) (skipBlanks us ++ .blank :: ts)

namespace Replaced

/-- There is only one way to replace references. -/
theorem unique {us : List Token} (h : Replaced lookup ps ts) (h' : Replaced lookup ps us) :
    ts = us := by
  induction h generalizing us with
  | nil =>
    cases h'
    rfl
  | plain t _ ih =>
    cases h' with
    | plain _ h' => rw [ih h']
  | value hargs hx _ ih =>
    cases h' with
    | value hargs' hx' h' =>
      obtain ⟨rfl, -⟩ := Prod.mk.inj (Option.some.inj (hargs.symm.trans hargs'))
      obtain rfl := Option.some.inj (hx.symm.trans hx')
      rw [ih h']
    | fallback hargs' hnone' _ h' =>
      obtain ⟨rfl, -⟩ := Prod.mk.inj (Option.some.inj (hargs.symm.trans hargs'))
      exact absurd (hx.symm.trans hnone') nofun
  | fallback hargs hnone _ _ ihinner ih =>
    cases h' with
    | value hargs' hx' h' =>
      obtain ⟨rfl, -⟩ := Prod.mk.inj (Option.some.inj (hargs.symm.trans hargs'))
      exact absurd (hx'.symm.trans hnone) nofun
    | fallback hargs' hnone' hinner' h' =>
      obtain ⟨rfl, hinner⟩ := Prod.mk.inj (Option.some.inj (hargs.symm.trans hargs'))
      obtain rfl := Option.some.inj hinner
      rw [ihinner hinner', ih h']

end Replaced

theorem mem_of_plain_mem {t : Token} (h : .plain t ∈ pieces ts) : t ∈ ts := by
  fun_induction pieces ts with
  | case1 => cases h
  | case2 u r hu hlt ih =>
    rcases List.mem_cons.1 h with heq | h
    · cases heq
    have hmem := ih h
    refine List.mem_cons_of_mem _ (?_ : t ∈ r)
    unfold splitArguments at hmem
    cases hsplit : splitAtClose? opensGroup (· == .closeParen) 0 r with
    | none => simp [hsplit] at hmem
    | some p =>
      rw [hsplit] at hmem
      exact (splitAtClose?_suffix hsplit).subset hmem
  | case3 u r hu ih =>
    rcases List.mem_cons.1 h with heq | h
    · cases heq
      exact List.mem_cons_self
    · exact List.mem_cons_of_mem _ (ih h)

namespace Replaced

theorem isProper (h : Replaced lookup ps ts) (hps : ∀ t, .plain t ∈ ps → t.IsProper) :
    ∀ t ∈ ts, t.IsProper := by
  have hput : ∀ {us ts : List Token}, (∀ t ∈ us, t.IsProper) → (∀ t ∈ ts, t.IsProper) →
      ∀ t ∈ skipBlanks us ++ .blank :: ts, t.IsProper := fun hus hts =>
    List.forall_mem_append.2 ⟨fun t ht => hus t ((List.dropWhile_suffix _).subset ht),
      List.forall_mem_cons.2 ⟨trivial, hts⟩⟩
  induction h with
  | nil => exact nofun
  | plain t _ ih =>
    exact List.forall_mem_cons.2 ⟨hps t List.mem_cons_self,
      ih fun u hu => hps u (List.mem_cons_of_mem _ hu)⟩
  | value hargs hx _ ih =>
    exact hput (isProper_tokenize _) (ih fun u hu => hps u (List.mem_cons_of_mem _ hu))
  | fallback hargs hnone _ _ ihinner ih =>
    exact hput (ihinner fun u hu => isProper_tokenize _ u (mem_of_plain_mem hu))
      (ih fun u hu => hps u (List.mem_cons_of_mem _ hu))

end Replaced

/-! ### What pieces are joined to -/

/-- The text that pieces are joined to, with fallbacks as deep as the fuel goes. -/
def joined? (lookup : String → Option String) (fuel : Nat) (ps : List Piece) :
    Option (List Char) :=
  joinM (m := Id) (pieceM (fun name => pure (lookup name))
    (substituteFuelM (fun name => pure (lookup name)) fuel)) ps

section

variable {fuel : Nat} {cs : List Char}

theorem exists_joined?_of_substituteFuelM {text y : String}
    (h : substituteFuelM (m := Id) (fun name => pure (lookup name)) fuel text = some y) :
    ∃ fuel' < fuel, ∃ cs, joined? lookup fuel' (pieces (tokenize text)) = some cs ∧
      y = tokensText (tokenize (String.ofList cs)) := by
  cases fuel with
  | zero => cases h
  | succ fuel =>
    rw [substituteFuelM_succ] at h
    obtain ⟨cs, hcs, hy⟩ := Option.map_eq_some_iff.1 h
    exact ⟨fuel, Nat.lt_succ_self fuel, cs, hcs, hy.symm⟩

theorem joined?_cons_eq_some {p : Piece} (h : joined? lookup fuel (p :: ps) = some cs) :
    ∃ ds es, joined? lookup fuel ps = some es ∧ cs = ds ++ es ∧
      pieceM (m := Id) (fun name => pure (lookup name))
        (substituteFuelM (fun name => pure (lookup name)) fuel) p = some ds := by
  rw [joined?, joinM_id_cons] at h
  obtain ⟨ds, hds, h⟩ := Option.bind_eq_some_iff.1 h
  obtain ⟨es, hes, rfl⟩ := Option.map_eq_some_iff.1 h
  exact ⟨ds, es, hes, rfl, hds⟩

theorem joined?_plain_eq_some {t : Token} (h : joined? lookup fuel (.plain t :: ps) = some cs) :
    ∃ es, joined? lookup fuel ps = some es ∧ cs = t.chars ++ es := by
  obtain ⟨ds, es, hes, rfl, hds⟩ := joined?_cons_eq_some h
  exact ⟨es, hes, by rw [Option.some.inj hds]⟩

/-- In the place of a reference stands the value of its name, or else what its fallback comes to,
and a blank. -/
theorem joined?_reference_eq_some {args : List Token}
    (h : joined? lookup fuel (.reference args :: ps) = some cs) :
    ∃ name fallback y es, readReference? args = some (name, fallback) ∧
      joined? lookup fuel ps = some es ∧ cs = y.toList ++ ' ' :: es ∧
      (lookup name = some y ∨ lookup name = none ∧ ∃ ts, fallback = some ts ∧
        substituteFuelM (m := Id) (fun name => pure (lookup name)) fuel (tokensText ts) =
          some y) := by
  obtain ⟨ds, es, hes, rfl, hds⟩ := joined?_cons_eq_some h
  cases hargs : readReference? args with
  | none =>
    simp only [pieceM, hargs] at hds
    cases hds
  | some ref =>
    obtain ⟨name, fallback⟩ := ref
    simp only [pieceM, hargs] at hds
    cases hx : lookup name with
    | some x =>
      rw [hx] at hds
      exact ⟨name, fallback, x, es, rfl, hes, by simp [← Option.some.inj hds], .inl hx⟩
    | none =>
      rw [hx] at hds
      cases fallback with
      | none => cases hds
      | some ts =>
        obtain ⟨y, hy, rfl⟩ := Option.map_eq_some_iff.1 hds
        exact ⟨name, some ts, y, es, rfl, hes, by simp, .inr ⟨hx, ts, rfl, hy⟩⟩

end

/-- The text that pieces are joined to spells the tokens of the pieces with their references
replaced. -/
theorem exists_replaced (hlookup : ∀ name x, lookup name = some x → tokensText (tokenize x) = x)
    {fuel : Nat} {cs : List Char} (hps : ∀ t, .plain t ∈ ps → t.IsProper)
    (h : joined? lookup fuel ps = some cs) :
    ∃ ts, Replaced lookup ps ts ∧ ((∀ t ∈ ts, t.isSolid) → Kept ts → Spells cs ts) := by
  induction fuel using Nat.strongRecOn generalizing ps cs with
  | _ fuel ihfuel =>
    induction ps generalizing cs with
    | nil =>
      obtain rfl : [] = cs := Option.some.inj h
      exact ⟨[], .nil, fun _ _ => spells_nil⟩
    | cons p ps ih =>
      have hps' : ∀ t, .plain t ∈ ps → t.IsProper := fun t ht => hps t (List.mem_cons_of_mem _ ht)
      cases p with
      | plain t =>
        obtain ⟨es, hes, rfl⟩ := joined?_plain_eq_some h
        obtain ⟨ts, hts, hspells⟩ := ih hps' hes
        refine ⟨t :: ts, .plain t hts, fun hsolid hkept => ?_⟩
        have hspells := hspells (fun u hu => hsolid u (List.mem_cons_of_mem _ hu)) hkept.2
        have hsolid := hsolid t List.mem_cons_self
        by_cases ht : t = .blank
        · subst ht
          exact hspells.blank
        have hblank := isBlank_eq_false ht
        obtain ⟨d, hd⟩ := exists_getLast?_written hsolid hblank
        exact (hspells.after d).token (hps t List.mem_cons_self) hsolid hblank hd hkept
      | reference args =>
        obtain ⟨name, fallback, y, es, hargs, hes, rfl, hy⟩ := joined?_reference_eq_some h
        obtain ⟨ts, hts, hspells⟩ := ih hps' hes
        -- the tokens after the text that is put in
        have hspells : ∀ us : List Token, (∀ t ∈ us ++ .blank :: ts, t.isSolid) →
            Kept (us ++ .blank :: ts) → Spells es ts := fun us hsolid hkept =>
          hspells (fun t ht => hsolid t (List.mem_append_right _ (List.mem_cons_of_mem _ ht)))
            hkept.right.2
        rcases hy with hx | ⟨hnone, inner, rfl, hy⟩
        · refine ⟨_, .value hargs hx hts, fun hsolid hkept => ?_⟩
          have hput := spells_tokensText (hspells _ hsolid hkept) (isProper_tokenize y) hsolid hkept
          rwa [hlookup name y hx] at hput
        · obtain ⟨fuel', hlt, ds, hds, rfl⟩ := exists_joined?_of_substituteFuelM hy
          have hproper : ∀ t, .plain t ∈ pieces (tokenize (tokensText inner)) → t.IsProper :=
            fun t ht => isProper_tokenize _ t (mem_of_plain_mem ht)
          obtain ⟨us, hus, hinner⟩ := ihfuel fuel' hlt hproper hds
          refine ⟨_, .fallback hargs hnone hus hts, fun hsolid hkept => ?_⟩
          have hrest := hspells _ hsolid hkept
          have hproper := hus.isProper hproper
          have hinner := hinner
            (isSolid_of_skipBlanks fun t ht => hsolid t (List.mem_append_left _ ht))
            (kept_of_append hrest hproper hsolid hkept)
          rw [hinner.tokensText_eq]
          exact spells_tokensText hrest hproper hsolid hkept

/-- The result of a substitution has the tokens of the value, with those of a value or of what a
fallback comes to in the place of each reference, if these are kept apart where they are printed. -/
theorem forms_tokenize_substitute? {text result : String}
    (hlookup : ∀ name x, lookup name = some x → tokensText (tokenize x) = x)
    (h : substitute? lookup text = some result) :
    ∃ ts, Replaced lookup (pieces (tokenize text)) ts ∧
      (keeps none false ts → (∀ t ∈ ts, t.isSolid) → forms (tokenize result) = forms ts) := by
  obtain ⟨fuel, -, cs, hcs, rfl⟩ := exists_joined?_of_substituteFuelM h
  have hps : ∀ t, .plain t ∈ pieces (tokenize text) → t.IsProper := fun t ht =>
    isProper_tokenize text t (mem_of_plain_mem ht)
  obtain ⟨ts, hts, hspells⟩ := exists_replaced hlookup hps hcs
  refine ⟨ts, hts, fun hkeeps hsolid => ?_⟩
  rw [(hspells hsolid ((keeps_iff_kept hsolid).1 hkeeps)).tokensText_eq]
  exact forms_tokensText (hts.isProper hps) hkeeps

/-- Pieces without references are left as they are. -/
theorem replaced_plain (lookup : String → Option String) (ts : List Token) :
    Replaced lookup (ts.map .plain) ts := by
  induction ts with
  | nil => exact .nil
  | cons t ts ih => exact .plain t ih

/-- The values that are known where one property has been declared. -/
def known (property value name : String) : Option String :=
  if name = property then some value else none

theorem canonical_known {property value : String} (h : tokensText (tokenize value) = value) :
    ∀ name x, known property value name = some x → tokensText (tokenize x) = x := by
  intro name x hx
  unfold known at hx
  split at hx
  · exact Option.some.inj hx ▸ h
  · cases hx

/-- A value with a reference that is known and one that is not. -/
def borderText : String := "var(--width) solid var(--color, rgb(1, 2, 3))"

/-- The pieces of that value. -/
def borderPieces : List Piece :=
  [.reference [.ident "--width"], .plain .blank, .plain (.ident "solid"), .plain .blank,
    .reference (.ident "--color" :: .comma :: tokenize " rgb(1, 2, 3)")]

theorem forms_tokenize_substitute?_border :
    substitute? (known "--width" "2px") borderText = some "2px solid rgb(1, 2, 3)" ∧
      ∃ ts, Replaced (known "--width" "2px") (pieces (tokenize borderText)) ts ∧
        forms (tokenize "2px solid rgb(1, 2, 3)") = forms ts := by
  have hresult : substitute? (known "--width" "2px") borderText =
      some "2px solid rgb(1, 2, 3)" := by decide +kernel
  have hpieces : pieces (tokenize borderText) = borderPieces := by decide +kernel
  have hinner : pieces (tokenize (tokensText (tokenize " rgb(1, 2, 3)"))) =
      (tokenize "rgb(1, 2, 3)").map .plain := by decide +kernel
  obtain ⟨ts, hts, hforms⟩ :=
    forms_tokenize_substitute? (canonical_known (by decide +kernel)) hresult
  have hborder : Replaced (known "--width" "2px") borderPieces _ :=
    .value rfl rfl (.plain _ (.plain _ (.plain _
      (.fallback rfl rfl (hinner ▸ replaced_plain _ _) .nil))))
  obtain rfl := (hpieces ▸ hts).unique hborder
  exact ⟨hresult, _, hts, hforms (by decide +kernel) (by decide +kernel)⟩

/-- A sign before a reference is read together with the number that is put in its place. -/
theorem not_forms_tokenize_substitute? :
    ¬ ∀ (lookup : String → Option String) (text result : String) (ts : List Token),
      tokensText (tokenize text) = text →
      (∀ name x, lookup name = some x → tokensText (tokenize x) = x) →
      substitute? lookup text = some result → Replaced lookup (pieces (tokenize text)) ts →
      forms (tokenize result) = forms ts := by
  intro h
  have hpieces : pieces (tokenize "+var(--x)") =
      [.plain (.delim '+'), .reference [.ident "--x"]] := by decide +kernel
  have hts : Replaced (known "--x" "1") [.plain (.delim '+'), .reference [.ident "--x"]] _ :=
    .plain _ (.value rfl rfl .nil)
  have hforms := h (known "--x" "1") "+var(--x)" "1" _ (by decide +kernel)
    (canonical_known (by decide +kernel)) (by decide +kernel) (hpieces ▸ hts)
  exact absurd hforms (by decide +kernel)

end Substitution
end WebStyle
