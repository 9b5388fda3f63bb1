import WebStyle.Proofs.Token.Spelled
/-!
Canonical text between parentheses. Where the closing parenthesis follows, the tokens of the text
are those that it was printed from, but for blanks; and these are where they make no difference to
what is printed of them.
-/
set_option autoImplicit false

namespace WebStyle

open Lexer Printer

variable {r : List Char} {t : Token} {ts us : List Token}

/-! ### What forms tell -/

/-- Runs of tokens of the same forms have the same groups. -/
theorem balances_eq_of_forms {opens closes : Token → Bool}
    (hopens : ∀ t : Token, opens t.form.1 = opens t ∧ (t.isBlank → opens t = false))
    (hcloses : ∀ t : Token, closes t.form.1 = closes t ∧ (t.isBlank → closes t = false))
    (h : forms us = forms ts) (depth : Nat) :
    balances opens closes depth us = balances opens closes depth ts := by
  have hforms : ∀ (ts : List Token) (depth : Nat), balances opens closes depth ts =
      balances opens closes depth ((forms ts).map Prod.fst) := by
    intro ts
    induction ts with
    | nil => exact fun _ => rfl
    | cons t ts ih =>
      intro depth
      cases hblank : t.isBlank with
      | true =>
        have hforms : forms (t :: ts) = forms ts := by simp [forms, hblank]
        simpa [hforms, balances, (hopens t).2 hblank, (hcloses t).2 hblank] using ih depth
      | false =>
        simp only [forms_cons hblank, List.map_cons, balances, (hopens t).1, (hcloses t).1]
        cases depth <;> simp only [ih]
  rw [hforms us, hforms ts, h]

theorem exists_mem_of_forms (h : forms us = forms ts) (ht : t ∈ us) (hblank : t.isBlank = false) :
    ∃ u ∈ ts, u.isBlank = false ∧ u.form = t.form := by
  have hmem : t.form ∈ forms us :=
    List.mem_map_of_mem (List.mem_filter.2 ⟨ht, by simp [hblank]⟩)
  obtain ⟨u, hu, hform⟩ := List.mem_map.1 (h ▸ hmem)
  obtain ⟨hu, hblank⟩ := List.mem_filter.1 hu
  exact ⟨u, hu, by simpa using hblank, hform⟩

/-! ### Printed runs before a closing parenthesis -/

namespace Printer

/-- Nothing clings to a token that a blank is put after. -/
theorem clings_of_gap (hsolid : t.isSolid) (hblank : t.isBlank = false)
    (hspace : (written t).getLast? = some ' ') (r : List Char) : t.clings r = false := by
  cases ends_of_isSolid hsolid hblank with
  | divider _ _ _ _ _ _ _ _ hfree => exact hfree r
  | other c hwritten hlast _ _ hnb =>
    rw [hwritten, hlast] at hspace
    obtain rfl := Option.some.inj hspace
    exact absurd hnb (by decide)

/-- A closing parenthesis clings no more than the end of the text does. -/
theorem clings_closeParen (hlast : r.getLast? ≠ some '\\') (ht : t ≠ .delim '\\')
    (more : List Char) : t.clings (r ++ ')' :: more) = t.clings r := by
  have hparen : IsDivider ')' := by decide
  have hblank : IsDivider ' ' := by decide
  rw [clings_append hparen hblank r more [] (by decide)]
  exact clings_append_blank hlast ht []

theorem tokens_blank_of_tokens {cs : List Char} (h : tokens cs = t :: ts)
    (hblank : t.isBlank = false) : tokens (' ' :: cs) = .blank :: t :: ts := by
  obtain ⟨rest, hnext, -⟩ := next?_blank_cons cs
  rcases tokens_blank_cons cs with heq | heq
  · rw [tokens_of_next? hnext, h] at heq
    rw [← (List.cons.inj heq).1] at hblank
    exact absurd hblank (by decide)
  · rw [heq, h]

end Printer

/-- Whether a text is read, before a closing parenthesis, as tokens of the given forms, of which the
same is printed after a text that ends with `last` and may owe a blank. -/
def Reread (last : Option Char) (owed : Bool) (cs : List Char) (ts : List Token) : Prop :=
  ∀ r, ∃ us, tokens (cs ++ ')' :: r) = us ++ tokens (')' :: r) ∧ forms us = forms ts ∧
    run last false us = run last owed ts

namespace Reread

variable {last : Option Char} {owed : Bool} {cs : List Char}

/-- A blank after another makes no difference. -/
theorem blank (h : Reread (some ' ') false cs ts) : Reread (some ' ') false (' ' :: cs) ts := by
  intro r
  obtain ⟨us, hus, hforms, hrun⟩ := h r
  rcases tokens_blank_cons (cs ++ ')' :: r) with heq | heq
  · exact ⟨us, heq.trans hus, hforms, hrun⟩
  · refine ⟨.blank :: us, heq.trans (congrArg _ hus), hforms, ?_⟩
    rw [run, Option.isSome_some, run_after_blank, hrun]

/-- A token, with the blank before it, if there is one. -/
theorem token (hproper : t.IsProper) (hsolid : t.isSolid) (hblank : t.isBlank = false)
    (hwritable : t.isWritable) (hclings : ∀ r, t.clings (cs ++ ')' :: r) = false)
    (howed : owed → last.isSome) (h : Reread (written t).getLast? false cs ts) :
    Reread last owed (lead last owed t ++ (t.chars ++ cs)) (t :: ts) := by
  intro r
  obtain ⟨us, hus, hforms, hrun⟩ := h r
  obtain ⟨t', hform, hblank', hread⟩ := readsAs_chars hproper hwritable hblank (hclings r)
  rw [hus] at hread
  have hforms : forms (t' :: us) = forms (t :: ts) := by
    rw [forms_cons hblank', forms_cons hblank, hform, hforms]
  have hprinted : ∀ owed, run last owed (t' :: us) =
      lead last owed t ++ (written t ++ run (written t).getLast? false ts) := by
    intro owed
    obtain ⟨hsolid', hwritten, hlead⟩ := printed_eq_of_form hform last owed
    rw [run_token (hsolid'.trans hsolid) hblank', hlead, hwritten, hrun]
  rw [run_token hsolid hblank, List.append_assoc, List.append_assoc]
  rcases lead_eq last owed t with hlead | ⟨hlead, rfl⟩
  · rw [hlead]
    exact ⟨t' :: us, hread, hforms, by rw [hprinted, lead_false]⟩
  · refine ⟨.blank :: t' :: us, ?_, hforms, ?_⟩
    · rw [hlead]
      exact tokens_blank_of_tokens hread hblank'
    · rw [run, howed rfl, hprinted]

end Reread

/-- What is printed of tokens is read, before a closing parenthesis, as tokens of the same forms, of
which the same is printed. -/
theorem reread_run (hproper : ∀ t ∈ ts, t.IsProper) (hsolid : ∀ t ∈ ts, t.isSolid)
    (hkept : Kept ts) (last : Option Char) (owed : Bool) (howed : owed → last.isSome) :
    Reread last owed (trimEnd (run last owed ts)) ts := by
  induction ts generalizing last owed with
  | nil => exact fun r => ⟨[], rfl, rfl, rfl⟩
  | cons t ts ih =>
    have hsolid' := fun u hu => hsolid u (List.mem_cons_of_mem t hu)
    have ih := ih (fun u hu => hproper u (List.mem_cons_of_mem t hu)) hsolid' hkept.2
    by_cases ht : t = .blank
    · subst ht
      exact ih last last.isSome id
    have hblank := isBlank_eq_false ht
    have hsolid := hsolid t List.mem_cons_self
    obtain ⟨hwritable, hclings⟩ := hkept.1 hblank
    have hmore := ih (written t).getLast? false nofun
    obtain ⟨gap, hgap, hcut⟩ := exists_gap hsolid hblank (run (written t).getLast? false ts)
    rw [run_token hsolid hblank, trimEnd_lead_append hsolid hblank, hcut]
    rcases hgap with rfl | ⟨rfl, hspace⟩
    · refine .token (hproper t List.mem_cons_self) hsolid hblank hwritable (fun r => ?_) howed hmore
      rw [List.nil_append, clings_closeParen (getLast?_trimEnd_run hsolid' _ _)
        (ne_backslash hsolid), hclings]
    · refine .token (hproper t List.mem_cons_self) hsolid hblank hwritable
        (fun r => clings_of_gap hsolid hblank hspace _) howed ?_
      rw [hspace] at hmore ⊢
      exact hmore.blank

/-! ### Canonical texts in parentheses -/

/-- Tokens that are told from their canonical text where it stands in parentheses: no two of them
cling together, blanks after them are told from them, and they close the groups that they open and
no other. -/
structure Enclosable (opens : Token → Bool) (ts : List Token) : Prop where
  proper : ∀ t ∈ ts, t.IsProper
  solid : ∀ t ∈ ts, t.isSolid
  keeps : keeps none false ts
  balances : balances opens (· == .closeParen) 0 ts
  nonblank : ∃ t ∈ ts, t.isBlank = false

namespace Enclosable

variable {opens : Token → Bool}

theorem kept (h : Enclosable opens ts) : Kept ts := (keeps_iff_kept h.solid).1 h.keeps

theorem isBad_eq_false (h : Enclosable opens ts) : ∀ t ∈ ts, t.isBad = false := by
  have hkept : ∀ {ts : List Token}, Kept ts → ∀ t ∈ ts, t.isBad = false := by
    intro ts
    induction ts with
    | nil => exact fun _ => nofun
    | cons t ts ih =>
      intro h u hu
      rcases List.mem_cons.1 hu with rfl | hu
      · cases u with
        | badString | badUrl => cases (h.1 rfl).1
        | _ => rfl
      · exact ih h.2 u hu
  exact hkept h.kept

/-- What is read of the canonical text in parentheses. -/
theorem exists_tokens (h : Enclosable opens ts) (r : List Char) :
    ∃ us, tokens (' ' :: ((tokensText ts).toList ++ ')' :: r)) = us ++ .closeParen :: tokens r ∧
      forms us = forms ts ∧ tokensText us = tokensText ts := by
  obtain ⟨us, hus, hforms, hrun⟩ := reread_run h.proper h.solid h.kept none false nofun r
  have hclose : tokens (')' :: r) = .closeParen :: tokens r := tokens_single (by decide) r
  rw [hclose] at hus
  have htext : tokensText us = tokensText ts := by rw [tokensText, tokensText, hrun]
  rw [tokensText, String.toList_ofList]
  rcases tokens_blank_cons (trimEnd (run none false ts) ++ ')' :: r) with heq | heq
  · exact ⟨us, heq.trans hus, hforms, htext⟩
  · exact ⟨.blank :: us, heq.trans (congrArg _ hus), hforms, htext⟩

end Enclosable

end WebStyle
