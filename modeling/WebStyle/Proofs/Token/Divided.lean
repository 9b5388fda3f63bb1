import WebStyle.Proofs.Token.Canonical
import WebStyle.Proofs.Token.Local
/-!
What divides tokens. What follows a blank, a comma or a parenthesis makes no difference to the
tokens before it, nor does a blank at the end of a text; so texts that are the same up to there
cling to what stands before them in the same way.
-/
set_option autoImplicit false

namespace WebStyle

open Lexer

variable {a b : Char} {p r s cs : List Char} {t : Token}

/-! ### What clings to a token -/

theorem IsDivider.stops (h : IsDivider a) : Numeral.stops a := by
  simp only [IsDivider, List.mem_cons, List.not_mem_nil, or_false] at h
  rcases h with rfl | rfl | rfl | rfl | rfl <;> decide

section

variable (ha : IsDivider a) (hb : IsDivider b) (p r s : List Char)
include ha hb

theorem continuesName_append : continuesName (p ++ a :: r) = continuesName (p ++ b :: s) := by
  rw [continuesName, continuesName, startsEscape_append ha hb p r s]
  cases p with
  | nil => simp [ha.facts.1, hb.facts.1]
  | cons c p => rfl

theorem continuesNumber_append :
    continuesNumber (p ++ a :: r) = continuesNumber (p ++ b :: s) := by
  simp only [continuesNumber, Numeral.readFraction?_append ha.stops,
    Numeral.readFraction?_append hb.stops, Numeral.readExponent?_append ha.stops,
    Numeral.readExponent?_append hb.stops, Option.isSome_map]
  cases p with
  | nil =>
    have ha := ha.stops
    have hb := hb.stops
    simp only [Numeral.stops, Bool.and_eq_true, Bool.not_eq_true'] at ha hb
    simp [ha.1.1.1.1.1, hb.1.1.1.1.1]
  | cons c p => rfl

theorem isPrefixOf_divided {mark : List Char} (h : mark.any (IsDivider ·) = false) :
    mark.isPrefixOf (p ++ a :: r) = mark.isPrefixOf (p ++ b :: s) := by
  have hmark : ∀ {c : Char}, IsDivider c → c ∉ mark := fun hc hmem => by
    simpa [hc] using List.any_eq_false.1 h _ hmem
  rw [isPrefixOf_append (hmark ha), isPrefixOf_append (hmark hb)]

/-- What clings to a token stands before the next divider; but a parenthesis clings to a name. -/
theorem clings_append (hparen : a = '(' ↔ b = '(') :
    t.clings (p ++ a :: r) = t.clings (p ++ b :: s) := by
  have hname := continuesName_append ha hb p r s
  have hnumber := fun p => continuesNumber_append ha hb p r s
  have hhead : ∀ c, ¬ IsDivider c ∨ c = '(' →
      ((p ++ a :: r).head? == some c) = ((p ++ b :: s).head? == some c) := by
    intro c hc
    cases p with
    | nil =>
      rcases hc with hc | rfl
      · have hac : a ≠ c := fun h => hc (h ▸ ha)
        have hbc : b ≠ c := fun h => hc (h ▸ hb)
        simp [hac, hbc]
      · rw [Bool.eq_iff_iff]
        simp [hparen]
    | cons d p => rfl
  have hstarts : ∀ p, Numeral.starts (p ++ a :: r) = Numeral.starts (p ++ b :: s) := fun p => by
    rw [Numeral.starts_append ha.stops, Numeral.starts_append hb.stops]
  cases t with
  | ident name =>
    simp only [Token.clings, hname, hhead '(' (.inr rfl), hhead '>' (.inl (by decide))]
  | atKeyword name => exact hname
  | hash name isId => exact hname
  | number n =>
    simp only [Token.clings, hnumber, startsName_append ha hb p r s,
      hhead '%' (.inl (by decide))]
  | dimension n unit =>
    simp only [Token.clings, hname, ← List.append_assoc, hnumber]
  | delim d =>
    simp only [Token.clings]
    split
    · exact hname
    · exact startsName_append ha hb p r s
    · exact startsEscape_append ha hb ('\\' :: p) r s
    · exact hhead '*' (.inl (by decide))
    · exact isPrefixOf_divided ha hb p r s (by decide)
    · exact congr (congrArg _ (congr (congrArg _ (hstarts ('-' :: p)))
        (isPrefixOf_divided ha hb p r s (by decide)))) (startsName_append ha hb ('-' :: p) r s)
    · exact hstarts ('+' :: p)
    · exact hstarts ('.' :: p)
    · rfl
  | _ => rfl

end

theorem continuesName_extend (h : continuesName p) (r : List Char) : continuesName (p ++ r) := by
  rcases Bool.or_eq_true_iff.1 h with h | h
  · cases p with
    | nil => exact absurd h Bool.false_ne_true
    | cons c p => exact Bool.or_eq_true_iff.2 (.inl h)
  · exact Bool.or_eq_true_iff.2 (.inr (startsEscape_extend h r))

theorem startsName_append_blank (hlast : p.getLast? ≠ some '\\') (r : List Char) :
    startsName (p ++ ' ' :: r) = startsName p := by
  rw [startsName_append (show IsDivider ' ' by decide) (show IsDivider ' ' by decide) p r []]
  exact Bool.eq_iff_iff.2
    ⟨fun h => startsName_of_append_blank h hlast, fun h => startsName_extend h _⟩

/-- A blank after the text clings no more than the end of the text does. -/
theorem clings_append_blank (hlast : p.getLast? ≠ some '\\') (ht : t ≠ .delim '\\')
    (r : List Char) : t.clings (p ++ ' ' :: r) = t.clings p := by
  have hblank : IsDivider ' ' := by decide
  rw [clings_append hblank hblank p r [] Iff.rfl]
  have hname : continuesName (p ++ [' ']) = continuesName p := Bool.eq_iff_iff.2
    ⟨fun h => continuesName_of_append_blank h hlast, fun h => continuesName_extend h _⟩
  have hnumber : ∀ p, continuesNumber (p ++ [' ']) = continuesNumber p := fun p => by
    simp only [continuesNumber, Numeral.readFraction?_append hblank.stops,
      Numeral.readExponent?_append hblank.stops, Option.isSome_map]
    cases p <;> rfl
  have hhead : ∀ c, c ≠ ' ' → ((p ++ [' ']).head? == some c) = (p.head? == some c) := by
    intro c hc
    cases p with
    | nil => simpa using Ne.symm hc
    | cons d p => rfl
  have hstarts : ∀ p, Numeral.starts (p ++ [' ']) = Numeral.starts p := fun p =>
    Numeral.starts_append hblank.stops p []
  have hmark : ∀ mark : List Char, ' ' ∉ mark →
      mark.isPrefixOf (p ++ [' ']) = mark.isPrefixOf p := fun mark h => isPrefixOf_append h p []
  cases t with
  | ident name =>
    simp only [Token.clings, hname, hhead '(' (by decide), hhead '>' (by decide)]
  | atKeyword name => exact hname
  | hash name isId => exact hname
  | number n => simp only [Token.clings, hnumber, startsName_append_blank hlast, hhead '%' (by decide)]
  | dimension n unit => simp only [Token.clings, hname, ← List.append_assoc, hnumber]
  | delim d =>
    simp only [Token.clings]
    split
    · exact hname
    · exact startsName_append_blank hlast []
    · exact absurd rfl ht
    · exact hhead '*' (by decide)
    · exact hmark _ (by decide)
    · have hminus : ('-' :: p).getLast? ≠ some '\\' := by
        rw [List.getLast?_cons]
        cases hp : p.getLast? with
        | none => decide
        | some c => simpa [hp] using hlast
      exact congr (congrArg _ (congr (congrArg _ (hstarts ('-' :: p))) (hmark _ (by decide))))
        (startsName_append_blank hminus [])
    · exact hstarts ('+' :: p)
    · exact hstarts ('.' :: p)
    · rfl
  | _ => rfl

/-- Texts that are the same up to a divider, or up to their end. -/
inductive Meets : List Char → List Char → Prop
  | same (p : List Char) : Meets p p
  | divided {a b : Char} (ha : IsDivider a) (hb : IsDivider b) (hparen : a = '(' ↔ b = '(')
    (p r s : List Char) : Meets (p ++ a :: r) (p ++ b :: s)
  | ended {p : List Char} (hlast : p.getLast? ≠ some '\\') (r : List Char) :
    Meets (p ++ ' ' :: r) p

namespace Meets

theorem clings_eq (h : Meets r s) (ht : t ≠ .delim '\\') : t.clings r = t.clings s := by
  cases h with
  | same => rfl
  | divided ha hb hparen p r s => exact clings_append ha hb p r s hparen
  | ended hlast r => exact clings_append_blank hlast ht r

theorem append (h : Meets r s) (hlast : cs.getLast? ≠ some '\\') :
    Meets (cs ++ r) (cs ++ s) := by
  cases h with
  | same => exact .same _
  | divided ha hb hparen p r s =>
    rw [← List.append_assoc, ← List.append_assoc]
    exact .divided ha hb hparen (cs ++ p) r s
  | ended hlast' r =>
    rw [← List.append_assoc]
    refine .ended ?_ r
    rw [List.getLast?_append]
    cases hp : s.getLast? with
    | none => simpa using hlast
    | some c => simpa [hp] using hlast'

end Meets

end WebStyle
