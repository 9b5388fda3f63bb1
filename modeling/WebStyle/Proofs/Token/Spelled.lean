import WebStyle.Proofs.Token.Divided
import WebStyle.Proofs.Token.Nesting
/-!
Texts that spell tokens out. Printing the tokens of such a text is printing the tokens that it
spells, and what is read before it is read as it is before their canonical text, though blanks are
elsewhere. What is printed spells its tokens again, if a blank is put after it.
-/
set_option autoImplicit false

namespace WebStyle

open Lexer

variable {c : Char} {r cs : List Char} {t : Token} {ts us : List Token} {last : Option Char}
  {owed : Bool}

/-! ### Printing token by token -/

/-- Whether blanks after the text of a token are told from it: it opens a group, or it does not end
in a parenthesis, a backslash or a blank. Names may, where their last character is escaped or is a
blank beyond ASCII. -/
def Token.isSolid (t : Token) : Bool :=
  t.isBlank || t.opensGroup ||
    t.chars.getLast?.any fun c => c != '(' && c != '\\' && !Text.isBlank c

theorem isBlank_eq_false (h : t ≠ .blank) : t.isBlank = false := by
  cases t with
  | blank => exact absurd rfl h
  | _ => rfl

/-- The characters of a token, from what they tell. -/
def Token.formChars : Token × String → List Char
  | (.number _, text) => text.toList
  | (.percentage _, text) => text.toList ++ ['%']
  | (.dimension _ unit, text) => text.toList ++ unit.toList
  | (t, _) => t.chars

theorem Token.chars_eq_formChars (t : Token) : t.chars = formChars t.form := by cases t <;> rfl

namespace Printer

/-- The blank before a token, if there is one. -/
def lead (last : Option Char) (owed : Bool) : Token → List Char
  | .comma | .closeParen => []
  | _ => if owed && last != some '(' && last != some ' ' then [' '] else []

/-- A token with the blank that is always put after it, if there is one. -/
def written : Token → List Char
  | .comma => [',', ' ']
  | t => t.chars

theorem lead_eq (last : Option Char) (owed : Bool) (t : Token) :
    lead last owed t = [] ∨ lead last owed t = [' '] ∧ owed := by
  unfold lead
  split
  · exact .inl rfl
  · exact .inl rfl
  · split
    · rename_i h
      simp only [Bool.and_eq_true] at h
      exact .inr ⟨rfl, h.1.1⟩
    · exact .inl rfl

theorem lead_false (last : Option Char) (t : Token) : lead last false t = [] :=
  (lead_eq last false t).resolve_right fun h => Bool.false_ne_true h.2

/-- How a token ends. -/
inductive Ends (t : Token) : Prop
  /-- With a divider, and nothing clings to it. -/
  | divider (cs : List Char) (d : Char) (gap : List Char) (hchars : t.chars = cs ++ [d])
    (hwritten : written t = cs ++ d :: gap) (hgap : gap = [] ∨ gap = [' ']) (hd : IsDivider d)
    (hblank : Text.isBlank d = false) (hfree : ∀ r, t.clings r = false)
  /-- With a character after which it does not matter what blanks there are. -/
  | other (c : Char) (hwritten : written t = t.chars) (hlast : t.chars.getLast? = some c)
    (hparen : c ≠ '(') (hslash : c ≠ '\\') (hblank : Text.isBlank c = false)

theorem ends_of_isSolid (hsolid : t.isSolid) (hblank : t.isBlank = false) : Ends t := by
  have hother : t.chars.getLast?.any (fun c => c != '(' && c != '\\' && !Text.isBlank c) →
      written t = t.chars → Ends t := by
    intro h hwritten
    obtain ⟨c, hc, hne⟩ := (Option.any_eq_true _ _).1 h
    simp only [Bool.and_eq_true, bne_iff_ne, Bool.not_eq_true'] at hne
    exact .other c hwritten hc hne.1.1 hne.1.2 hne.2
  cases t with
  | blank => cases hblank
  | comma => exact .divider [] ',' [' '] rfl rfl (.inr rfl) (by decide) (by decide) fun _ => rfl
  | function name =>
    exact .divider (Printer.name name.toList) '(' [] rfl rfl (.inl rfl) (by decide) (by decide)
      fun _ => rfl
  | openParen => exact .divider [] '(' [] rfl rfl (.inl rfl) (by decide) (by decide) fun _ => rfl
  | _ => exact hother hsolid rfl

theorem ne_backslash (hsolid : t.isSolid) : t ≠ .delim '\\' := by
  rintro rfl
  exact absurd hsolid (by decide)

theorem chars_ne_nil (hsolid : t.isSolid) (hblank : t.isBlank = false) : t.chars ≠ [] := by
  intro h
  cases ends_of_isSolid hsolid hblank with
  | divider _ _ _ hchars => simp [h] at hchars
  | other _ _ hlast => simp [h] at hlast

theorem written_eq_chars (hcomma : t ≠ .comma) : written t = t.chars := by
  unfold written
  split
  · exact absurd rfl hcomma
  · rfl

theorem written_ne_nil (hsolid : t.isSolid) (hblank : t.isBlank = false) : written t ≠ [] := by
  by_cases hcomma : t = .comma
  · rw [hcomma]
    exact List.cons_ne_nil _ _
  · rw [written_eq_chars hcomma]
    exact chars_ne_nil hsolid hblank

theorem exists_getLast?_written (hsolid : t.isSolid) (hblank : t.isBlank = false) :
    ∃ c, (written t).getLast? = some c :=
  Option.ne_none_iff_exists'.1 (mt List.getLast?_eq_none_iff.1 (written_ne_nil hsolid hblank))

theorem spaced_eq_lead (hcomma : t ≠ .comma) (hparen : t ≠ .closeParen) (last : Option Char)
    (owed : Bool) : spaced last owed t = lead last owed t ++ written t := by
  rw [written_eq_chars hcomma]
  unfold spaced lead
  split <;> split <;> first | contradiction | rfl

theorem getLast?_spaced (hsolid : t.isSolid) (hblank : t.isBlank = false) (hcomma : t ≠ .comma)
    (hparen : t ≠ .closeParen) (last : Option Char) (owed : Bool) :
    (spaced last owed t).getLast?.or last = (written t).getLast? := by
  have hne := written_ne_nil hsolid hblank
  rw [spaced_eq_lead hcomma hparen, List.getLast?_append_of_ne_nil _ hne,
    List.getLast?_eq_some_getLast hne]
  rfl

/-- What is printed of a token and those after it. -/
theorem run_token (hsolid : t.isSolid) (hblank : t.isBlank = false) (last : Option Char)
    (owed : Bool) (ts : List Token) :
    run last owed (t :: ts) =
      lead last owed t ++ (written t ++ run (written t).getLast? false ts) := by
  by_cases hcomma : t = .comma
  · subst hcomma
    rfl
  by_cases hparen : t = .closeParen
  · subst hparen
    rfl
  rw [run_cons (by rintro rfl; cases hblank) hcomma hparen,
    getLast?_spaced hsolid hblank hcomma hparen, spaced_eq_lead hcomma hparen, List.append_assoc]

/-- What is printed of a token is told by what its text tells. -/
theorem printed_eq_of_form {t' : Token} (h : t'.form = t.form) (last : Option Char) (owed : Bool) :
    t'.isSolid = t.isSolid ∧ written t' = written t ∧ lead last owed t' = lead last owed t := by
  have hblank : ∀ t : Token, t.isBlank = t.form.1.isBlank := fun t => by cases t <;> rfl
  have hopens : ∀ t : Token, t.opensGroup = t.form.1.opensGroup := fun t => by cases t <;> rfl
  have hlead : ∀ t : Token, lead last owed t = lead last owed t.form.1 := fun t => by
    cases t <;> rfl
  have hwritten : ∀ t : Token, written t = if t.form.1 = .comma then [',', ' '] else t.chars :=
    fun t => by cases t <;> rfl
  have hchars : t'.chars = t.chars := by
    rw [Token.chars_eq_formChars, Token.chars_eq_formChars, h]
  refine ⟨?_, ?_, ?_⟩
  · rw [Token.isSolid, Token.isSolid, hblank, hblank t, hopens, hopens t, hchars, h]
  · rw [hwritten, hwritten t, hchars, h]
  · rw [hlead, hlead t, h]

/-- Whether tokens are kept apart where they are printed one after the other. -/
def Kept : List Token → Prop
  | [] => True
  | t :: ts => (t.isBlank = false → t.isWritable ∧
      t.clings (trimEnd (run (written t).getLast? false ts)) = false) ∧ Kept ts

theorem Kept.right (h : Kept (us ++ ts)) : Kept ts := by
  induction us with
  | nil => exact h
  | cons t us ih => exact ih h.2

theorem trimEnd_append_of_getLast? (hlast : cs.getLast? = some c) (hc : Text.isBlank c = false)
    (r : List Char) : trimEnd (cs ++ r) = cs ++ trimEnd r := by
  obtain ⟨cs, rfl⟩ := List.getLast?_eq_some_iff.1 hlast
  rw [List.append_assoc, List.singleton_append, trimEnd_append,
    trimEnd_cons_of_not_isBlank hc, if_neg (List.cons_ne_nil _ _), List.append_assoc]
  rfl

/-- What is left of a token and what follows it where blanks are cut off at the end. -/
theorem exists_gap (hsolid : t.isSolid) (hblank : t.isBlank = false) (r : List Char) :
    ∃ gap, (gap = [] ∨ gap = [' '] ∧ (written t).getLast? = some ' ') ∧
      trimEnd (written t ++ r) = t.chars ++ (gap ++ trimEnd r) := by
  cases ends_of_isSolid hsolid hblank with
  | divider cs d gap hchars hwritten hgap _ hnb =>
    have hcut : trimEnd (written t ++ r) = t.chars ++ trimEnd (gap ++ r) := by
      rw [hchars, ← trimEnd_append_of_getLast? List.getLast?_concat hnb, hwritten]
      simp
    rcases hgap with rfl | rfl
    · exact ⟨[], .inl rfl, hcut⟩
    · rw [hcut, trimEnd_append [' '] r]
      split
      · rename_i hr
        exact ⟨[], .inl rfl, by rw [hr]; rfl⟩
      · exact ⟨[' '], .inr ⟨rfl, by simp [hwritten]⟩, rfl⟩
  | other c hwritten hlast _ _ hnb =>
    exact ⟨[], .inl rfl, by rw [hwritten, trimEnd_append_of_getLast? hlast hnb]; rfl⟩

theorem trimEnd_lead_append (hsolid : t.isSolid) (hblank : t.isBlank = false) (last : Option Char)
    (owed : Bool) (r : List Char) :
    trimEnd (lead last owed t ++ (written t ++ r)) =
      lead last owed t ++ trimEnd (written t ++ r) := by
  rcases lead_eq last owed t with heq | ⟨heq, -⟩
  · rw [heq]
    rfl
  · obtain ⟨gap, -, hcut⟩ := exists_gap hsolid hblank r
    have hne : trimEnd (written t ++ r) ≠ [] := by
      rw [hcut]
      exact List.append_ne_nil_of_left_ne_nil (chars_ne_nil hsolid hblank) _
    rw [heq, trimEnd_append, if_neg hne]

theorem getLast?_trimEnd_run (hsolid : ∀ t ∈ ts, t.isSolid) (last : Option Char) (owed : Bool) :
    (trimEnd (run last owed ts)).getLast? ≠ some '\\' := by
  induction ts generalizing last owed with
  | nil => exact nofun
  | cons t ts ih =>
    have ih := ih fun t ht => hsolid t (List.mem_cons_of_mem _ ht)
    by_cases ht : t = .blank
    · subst ht
      exact ih _ _
    have hblank := isBlank_eq_false ht
    have hsolid := hsolid t List.mem_cons_self
    have hchars : t.chars.getLast? ≠ some '\\' := by
      cases ends_of_isSolid hsolid hblank with
      | divider cs d gap hchars _ _ hd =>
        rw [hchars, List.getLast?_concat]
        rintro ⟨⟩
        exact absurd hd (by decide)
      | other c _ hlast _ hslash => simpa [hlast] using hslash
    obtain ⟨gap, hgap, hcut⟩ := exists_gap hsolid hblank (run (written t).getLast? false ts)
    rw [run_token hsolid hblank, trimEnd_lead_append hsolid hblank, hcut]
    intro h
    simp only [List.getLast?_append, Option.or_eq_some_iff] at h
    rcases h with ((h | ⟨-, h⟩) | ⟨-, h⟩) | ⟨h, -⟩
    · exact ih _ _ h
    · rcases hgap with rfl | ⟨rfl, -⟩ <;> exact absurd h (by decide)
    · exact hchars h
    · exact chars_ne_nil hsolid hblank (List.getLast?_eq_none_iff.1 (Option.or_eq_none_iff.1 h).2)

theorem cutsSafely_of_isSolid (hsolid : t.isSolid) (hblank : t.isBlank = false) :
    cutsSafely t.chars := by
  have hends : ∃ c, t.chars.getLast? = some c ∧ Text.isBlank c = false := by
    cases ends_of_isSolid hsolid hblank with
    | divider cs d gap hchars _ _ _ hnb => exact ⟨d, by rw [hchars, List.getLast?_concat], hnb⟩
    | other c _ hlast _ _ hnb => exact ⟨c, hlast, hnb⟩
  obtain ⟨c, hc, hblank⟩ := hends
  have htrim := trimEnd_append_of_getLast? hc hblank []
  rw [List.append_nil] at htrim
  rw [cutsSafely, Bool.or_eq_true, beq_iff_eq]
  exact .inl (htrim.trans (List.append_nil _)).symm

theorem keeps_iff_kept (hsolid : ∀ t ∈ ts, t.isSolid) : keeps last owed ts ↔ Kept ts := by
  fun_induction keeps last owed ts with
  | case1 => simp [Kept]
  | case2 last owed ts ih =>
    rw [ih fun t ht => hsolid t (List.mem_cons_of_mem _ ht)]
    simp [Kept, Token.isBlank]
  | case3 last owed ts ih =>
    rw [ih fun t ht => hsolid t (List.mem_cons_of_mem _ ht)]
    simp [Kept, Token.isWritable, Token.clings]
  | case4 last owed ts ih =>
    rw [ih fun t ht => hsolid t (List.mem_cons_of_mem _ ht)]
    simp [Kept, Token.isWritable, Token.clings]
  | case5 last owed t ts hblank hcomma hparen last' rest ih =>
    have hsolid' := hsolid t List.mem_cons_self
    have hblank' := isBlank_eq_false hblank
    have hlast : last' = (written t).getLast? :=
      getLast?_spaced hsolid' hblank' hcomma hparen last owed
    simp only [Bool.and_eq_true, Bool.or_eq_true, cutsSafely_of_isSolid hsolid' hblank', or_true,
      Bool.not_eq_true', ih fun t ht => hsolid t (List.mem_cons_of_mem _ ht)]
    simp [Kept, hblank', rest, hlast]

theorem run_tokens_blank (last : Option Char) (owed : Bool) (cs : List Char) :
    run last owed (tokens (' ' :: cs)) = run last last.isSome (tokens cs) := by
  obtain ⟨rest, hnext, hcs | hcs⟩ := next?_blank_cons cs
  · rw [tokens_of_next? hnext, tokens_of_next? hcs, run, run]
  · rw [tokens_of_next? hnext, tokens_congr hcs, run]

/-- No blank is paid after another. -/
theorem run_after_blank (owed : Bool) (ts : List Token) :
    run (some ' ') owed ts = run (some ' ') false ts := by
  cases ts with
  | nil => rfl
  | cons t ts => cases t <;> simp [run]

theorem trimEnd_cons_cases (c : Char) (r : List Char) :
    trimEnd (c :: r) = [] ∨ trimEnd (c :: r) = c :: trimEnd r := by
  have happend := trimEnd_append [c] r
  rw [List.singleton_append] at happend
  rw [happend]
  split
  · rename_i hr
    rw [hr]
    cases hc : Text.isBlank c <;> simp [List.rdropWhile, hc]
  · exact .inr rfl

/-- Where a blank is owed and would be paid, a divider is printed, or nothing. -/
theorem meets_owed (hparen : c ≠ '(') (hblank : Text.isBlank c = false) (cs : List Char)
    (ts : List Token) : Meets (' ' :: cs) (trimEnd (run (some c) true ts)) := by
  have hended : Meets (' ' :: cs) [] := .ended (p := []) (by decide) cs
  have hdivider : ∀ (d : Char) (r : List Char), IsDivider d → d ≠ '(' →
      Meets (' ' :: cs) (trimEnd (d :: r)) := by
    intro d r hd hne
    rcases trimEnd_cons_cases d r with heq | heq <;> rw [heq]
    · exact hended
    · exact .divided (by decide) hd (by simp [hne]) [] cs (trimEnd r)
  have hpays : c ≠ ' ' := by
    rintro rfl
    exact absurd hblank (by decide)
  induction ts with
  | nil => exact hended
  | cons t ts ih =>
    by_cases ht : t = .blank
    · subst ht
      exact ih
    by_cases hcomma : t = .comma
    · subst hcomma
      exact hdivider ',' _ (by decide) (by decide)
    by_cases hclose : t = .closeParen
    · subst hclose
      exact hdivider ')' _ (by decide) (by decide)
    rw [run_cons ht hcomma hclose, spaced, if_pos (by simp [hparen, hpays])]
    exact hdivider ' ' _ (by decide) (by decide)

end Printer

/-! ### What a text spells -/

open Printer

/-- Whether a text spells tokens, after a text that ends with a character and may owe a blank. -/
structure SpellsAfter (c : Char) (owed : Bool) (cs : List Char) (ts : List Token) : Prop where
  normal : ∀ d ∈ cs, IsNormal d
  prints : run (some c) false (tokens cs) = run (some c) owed ts
  meets : c ≠ '(' → Text.isBlank c = false → Meets cs (trimEnd (run (some c) owed ts))

/-- Whether a text spells tokens, whatever is before it. -/
structure Spells (cs : List Char) (ts : List Token) : Prop where
  normal : ∀ d ∈ cs, IsNormal d
  prints : ∀ last owed, run last owed (tokens cs) = run last owed ts
  meets : ∀ c, c ≠ '(' → Text.isBlank c = false → Meets cs (trimEnd (run (some c) false ts))

theorem Spells.after (h : Spells cs ts) (c : Char) : SpellsAfter c false cs ts :=
  ⟨h.normal, h.prints _ _, h.meets c⟩

theorem spells_nil : Spells [] [] where
  normal := nofun
  prints last owed := by rw [tokens_nil]
  meets c _ _ := .same []

theorem Spells.blank (h : Spells cs ts) : Spells (' ' :: cs) (.blank :: ts) where
  normal := List.forall_mem_cons.2 ⟨by decide, h.normal⟩
  prints last owed := by rw [run_tokens_blank, h.prints, run]
  meets c hparen hblank := by
    rw [run]
    exact meets_owed hparen hblank cs ts

namespace SpellsAfter

/-- A blank after another makes no difference. -/
theorem blank (h : SpellsAfter ' ' false cs ts) : SpellsAfter ' ' false (' ' :: cs) ts where
  normal := List.forall_mem_cons.2 ⟨by decide, h.normal⟩
  prints := by rw [run_tokens_blank, run_after_blank, h.prints]
  meets _ hblank := absurd hblank (by decide)

section

variable (hproper : t.IsProper) (hsolid : t.isSolid) (hblank : t.isBlank = false)
  (hlast : (written t).getLast? = some c) (h : SpellsAfter c false cs ts)
include hsolid hblank hlast h

/-- What a text spells clings to a token as the text does. -/
theorem clings_eq :
    t.clings cs = t.clings (trimEnd (run (written t).getLast? false ts)) := by
  cases ends_of_isSolid hsolid hblank with
  | divider _ _ _ _ _ _ _ _ hfree => rw [hfree, hfree]
  | other d hwritten hd hparen _ hnb =>
    obtain rfl : c = d := Option.some.inj (hlast.symm.trans (hwritten ▸ hd))
    rw [hlast, (h.meets hparen hnb).clings_eq (ne_backslash hsolid)]

variable (hkept : Kept (t :: ts))
include hkept

include hproper in
/-- A token before what spells others. -/
theorem token : Spells (t.chars ++ cs) (t :: ts) where
  normal := List.forall_mem_append.2 ⟨isNormal_chars hproper (hkept.1 hblank).1, h.normal⟩
  prints last owed := by
    obtain ⟨t', hform, hblank', hread⟩ := readsAs_chars hproper (hkept.1 hblank).1 hblank
      ((h.clings_eq hsolid hblank hlast).trans (hkept.1 hblank).2)
    obtain ⟨hsolid', hwritten, hlead⟩ := printed_eq_of_form hform last owed
    rw [hread, run_token (hsolid'.trans hsolid) hblank', run_token hsolid hblank, hlead, hwritten,
      hlast, h.prints]
  meets d hparen hd := by
    rw [run_token hsolid hblank, lead_false, List.nil_append]
    cases ends_of_isSolid hsolid hblank with
    | divider p e gap hchars hwritten _ he hnb =>
      have hprinted : written t ++ run (written t).getLast? false ts =
          p ++ [e] ++ (gap ++ run (written t).getLast? false ts) := by
        simp [hwritten]
      rw [hprinted, trimEnd_append_of_getLast? List.getLast?_concat hnb, hchars, List.append_assoc,
        List.append_assoc]
      exact .divided he he Iff.rfl p _ _
    | other e hwritten he hparen' hslash hnb =>
      have hce : c = e := Option.some.inj (hlast.symm.trans (hwritten ▸ he))
      rw [hlast, hwritten, trimEnd_append_of_getLast? he hnb]
      refine (h.meets (hce ▸ hparen') (hce ▸ hnb)).append ?_
      rw [he]
      simpa using hslash

end

/-- A token before what is printed and a blank. -/
theorem trimmed (hproper : t.IsProper) (hsolid : t.isSolid) (hblank : t.isBlank = false)
    (hkept : Kept (t :: ts)) (hlast : (written t).getLast? = some c)
    (h : SpellsAfter c false (trimEnd r ++ ' ' :: cs) ts) :
    Spells (trimEnd (written t ++ r) ++ ' ' :: cs) (t :: ts) := by
  obtain ⟨gap, hgap, heq⟩ := exists_gap hsolid hblank r
  rw [heq, List.append_assoc, List.append_assoc]
  rcases hgap with rfl | ⟨rfl, hspace⟩
  · exact h.token hproper hsolid hblank hlast hkept
  · obtain rfl : c = ' ' := Option.some.inj (hlast.symm.trans hspace)
    exact h.blank.token hproper hsolid hblank hlast hkept

end SpellsAfter

theorem Spells.lead (hsolid : t.isSolid) (hblank : t.isBlank = false) (h : Spells cs (t :: ts))
    (c : Char) (owed : Bool) : SpellsAfter c owed (lead (some c) owed t ++ cs) (t :: ts) := by
  have hrun := run_token hsolid hblank (some c) owed ts
  rcases lead_eq (some c) owed t with heq | ⟨heq, rfl⟩
  · have hsame : run (some c) owed (t :: ts) = run (some c) false (t :: ts) := by
      rw [hrun, heq, run_token hsolid hblank, lead_false]
    rw [heq]
    exact ⟨h.normal, by rw [hsame]; exact h.prints _ _, by rw [hsame]; exact h.meets c⟩
  · rw [heq]
    refine ⟨List.forall_mem_cons.2 ⟨by decide, h.normal⟩, ?_, fun hparen hb => ?_⟩
    · rw [List.singleton_append, run_tokens_blank, h.prints]
      rfl
    · exact meets_owed hparen hb cs (t :: ts)

/-! ### Printed runs before a blank -/

section

variable (hspells : Spells cs ts) (hproper : ∀ t ∈ us, t.IsProper) (hsolid : ∀ t ∈ us, t.isSolid)
include hspells hproper hsolid

theorem spellsAfter_run (hkept : Kept (us ++ .blank :: ts)) (c : Char) (owed : Bool) :
    SpellsAfter c owed (trimEnd (run (some c) owed us) ++ ' ' :: cs) (us ++ .blank :: ts) := by
  induction us generalizing c owed with
  | nil =>
    have h := hspells.blank.after c
    exact ⟨h.normal, h.prints, h.meets⟩
  | cons t us ih =>
    have ih := ih (fun t ht => hproper t (List.mem_cons_of_mem _ ht))
      (fun t ht => hsolid t (List.mem_cons_of_mem _ ht)) hkept.2
    by_cases ht : t = .blank
    · subst ht
      have h := ih c true
      exact ⟨h.normal, h.prints, h.meets⟩
    have hblank := isBlank_eq_false ht
    have hsolid := hsolid t List.mem_cons_self
    obtain ⟨d, hd⟩ := exists_getLast?_written hsolid hblank
    have h := (ih d false).trimmed (hproper t List.mem_cons_self) hsolid hblank hkept hd
    rw [run_token hsolid hblank, trimEnd_lead_append hsolid hblank, List.append_assoc, hd]
    exact h.lead hsolid hblank c owed

/-- What is printed spells its tokens if a blank is put after it. -/
theorem spells_run (hkept : Kept (us ++ .blank :: ts)) (hhead : skipBlanks us = us) :
    Spells (trimEnd (run none false us) ++ ' ' :: cs) (us ++ .blank :: ts) := by
  cases us with
  | nil => exact hspells.blank
  | cons t us =>
    have hblank := not_isBlank_of_skipBlanks hhead
    have hsolid' := hsolid t List.mem_cons_self
    obtain ⟨d, hd⟩ := exists_getLast?_written hsolid' hblank
    have h := (spellsAfter_run hspells (fun u hu => hproper u (List.mem_cons_of_mem t hu))
      (fun u hu => hsolid u (List.mem_cons_of_mem t hu)) hkept.2 d false).trimmed
      (hproper t List.mem_cons_self) hsolid' hblank hkept hd
    rwa [run_token hsolid' hblank, lead_false, List.nil_append, hd]

/-- Before a blank, tokens are kept apart as they are at the end of a text. -/
theorem kept_append_iff (hts : Kept ts) : Kept (us ++ .blank :: ts) ↔ Kept us := by
  induction us with
  | nil => exact iff_of_true ⟨nofun, hts⟩ trivial
  | cons t us ih =>
    have hproper' := fun u hu => hproper u (List.mem_cons_of_mem t hu)
    have hsolid' := fun u hu => hsolid u (List.mem_cons_of_mem t hu)
    have ih := ih hproper' hsolid'
    rw [List.cons_append, Kept, Kept, ih]
    refine and_congr_left fun hus => forall_congr' fun hblank => and_congr_right' ?_
    have hsolid := hsolid t List.mem_cons_self
    obtain ⟨d, hd⟩ := exists_getLast?_written hsolid hblank
    have h := spellsAfter_run hspells hproper' hsolid' (ih.2 hus) d false
    rw [← h.clings_eq hsolid hblank hd, hd,
      clings_append_blank (getLast?_trimEnd_run hsolid' _ _) (ne_backslash hsolid)]

end

/-! ### Texts -/

/-- Blanks before all else are not printed. -/
theorem run_skipBlanks (ts : List Token) : run none false (skipBlanks ts) = run none false ts := by
  induction ts with
  | nil => rfl
  | cons t ts ih =>
    by_cases ht : t = .blank
    · subst ht
      exact ih
    · rw [skipBlanks_cons (isBlank_eq_false ht)]

theorem kept_of_skipBlanks (h : Kept (skipBlanks ts)) : Kept ts := by
  induction ts with
  | nil => trivial
  | cons t ts ih =>
    by_cases ht : t = .blank
    · subst ht
      exact ⟨nofun, ih h⟩
    · rwa [skipBlanks_cons (isBlank_eq_false ht)] at h

theorem isSolid_of_skipBlanks (h : ∀ t ∈ skipBlanks ts, t.isSolid) : ∀ t ∈ ts, t.isSolid := by
  intro t ht
  rw [← List.takeWhile_append_dropWhile (p := Token.isBlank) (l := ts), List.mem_append] at ht
  rcases ht with ht | ht
  · have hblank : t.isBlank = true := List.mem_takeWhile_imp ht
    rw [Token.isSolid, hblank]
    rfl
  · exact h t ht

namespace Printer

theorem run_append_blanks {bs : List Token} (h : ∀ b ∈ bs, b.isBlank) :
    run last owed (ts ++ bs) = run last owed ts := by
  fun_induction run last owed ts with
  | case1 last owed =>
    induction bs generalizing last owed with
    | nil => rfl
    | cons b bs ih =>
      obtain rfl : b = .blank := by
        have := h b List.mem_cons_self
        cases b <;> simp_all [Token.isBlank]
      exact ih (fun b hb => h b (List.mem_cons_of_mem _ hb)) _ _
  | case2 last owed ts ih => rw [List.cons_append, run, ih]
  | case3 last owed ts ih => rw [List.cons_append, run, ih]
  | case4 last owed ts ih => rw [List.cons_append, run, ih]
  | case5 last owed t ts hblank hcomma hparen pays text ih =>
    rw [List.cons_append, run_cons hblank hcomma hparen]
    exact congrArg (text ++ ·) ih

theorem run_blanks_append {bs : List Token} (h : ∀ b ∈ bs, b.isBlank) (ts : List Token) :
    run none false (bs ++ ts) = run none false ts := by
  induction bs with
  | nil => rfl
  | cons b bs ih =>
    obtain rfl : b = .blank := by
      have := h b List.mem_cons_self
      cases b <;> simp_all [Token.isBlank]
    exact ih fun b hb => h b (List.mem_cons_of_mem _ hb)

end Printer

theorem tokensText_trimBlanks (h : trimBlanks ts ≠ []) :
    tokensText (trimBlanks ts) = tokensText ts := by
  obtain ⟨-, before, after, hbefore, hafter, heq⟩ := Tight.of_trimBlanks h
  rw [tokensText, tokensText]
  conv_rhs => rw [heq, Printer.run_append_blanks hafter, Printer.run_blanks_append hbefore]

theorem isNormal_tokensText (hproper : ∀ t ∈ ts, t.IsProper) (hkeeps : keeps none false ts) :
    ∀ c ∈ (tokensText ts).toList, IsNormal c := by
  intro c hc
  rw [tokensText, String.toList_ofList] at hc
  exact isNormal_run hproper hkeeps c ((List.rdropWhile_prefix _ _).subset hc)

/-- Tokens that are kept apart are read back from their canonical text. -/
theorem forms_tokensText (hproper : ∀ t ∈ ts, t.IsProper) (hkeeps : keeps none false ts) :
    forms (tokenize (tokensText ts)) = forms ts := by
  rw [tokenize, normalize_of_isNormal (isNormal_tokensText hproper hkeeps), tokensText,
    String.toList_ofList]
  exact forms_run hproper hkeeps

/-- The canonical text of what a text spells is that of the text. -/
theorem Spells.tokensText_eq (h : Spells cs ts) :
    tokensText (tokenize (String.ofList cs)) = tokensText ts := by
  rw [tokenize, String.toList_ofList, normalize_of_isNormal h.normal, tokensText, h.prints]
  rfl

section

variable (hspells : Spells cs ts) (hproper : ∀ t ∈ us, t.IsProper)
  (hsolid : ∀ t ∈ skipBlanks us ++ .blank :: ts, t.isSolid)
  (hkept : Kept (skipBlanks us ++ .blank :: ts))
include hspells hproper hsolid hkept

/-- A canonical text and a blank spell its tokens. -/
theorem spells_tokensText :
    Spells ((tokensText us).toList ++ ' ' :: cs) (skipBlanks us ++ .blank :: ts) := by
  have h := spells_run hspells (fun t ht => hproper t ((List.dropWhile_suffix _).subset ht))
    (fun t ht => hsolid t (List.mem_append_left _ ht)) hkept (List.dropWhile_idempotent _ _)
  rw [run_skipBlanks] at h
  rwa [tokensText, String.toList_ofList]

theorem kept_of_append : Kept us :=
  kept_of_skipBlanks ((kept_append_iff hspells
    (fun t ht => hproper t ((List.dropWhile_suffix _).subset ht))
    (fun t ht => hsolid t (List.mem_append_left _ ht)) hkept.right.2).1 hkept)

end

end WebStyle
