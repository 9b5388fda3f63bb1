import Mathlib.Data.List.DropRight
import WebStyle.Proofs.Sequence
import WebStyle.Proofs.Token.Lexing
/-!
Runs of tokens with matched parentheses and brackets, and how they pass through the cutting of
longer runs; texts that are read as given tokens wherever they stand.
-/
set_option autoImplicit false

namespace WebStyle

open Lexer

/-- The token that ends the group a token opens. -/
def Token.closing? : Token → Option Token
  | .function _ | .openParen => some .closeParen
  | .openSquare => some .closeSquare
  | _ => none

/-- Functions and parentheses, which the arguments of a function may hold. -/
def Token.opensArguments : Token → Bool
  | .function _ | .openParen => true
  | _ => false

theorem Token.opensGroup_of_closing? {o c : Token} (h : o.closing? = some c) :
    o.opensGroup = true ∧ c.opensGroup = false ∧ c.closesGroup = true := by
  unfold Token.closing? at h
  split at h
  case h_4 => simp at h
  all_goals exact Option.some.inj h ▸ ⟨rfl, rfl, rfl⟩

theorem Token.not_groups_of_isBlank {t : Token} (h : t.isBlank) :
    t.opensGroup = false ∧ t.closesGroup = false := by
  cases t <;> simp_all [Token.isBlank, Token.opensGroup, Token.closesGroup]

/-- Runs of tokens in which every parenthesis and square bracket is matched. -/
inductive Nested : List Token → Prop where
  | nil : Nested []
  | atom {t : Token} {ts : List Token} (hopen : t.opensGroup = false)
      (hclose : t.closesGroup = false)
      (hts : Nested ts) : Nested (t :: ts)
  | group {o c : Token} {inside after : List Token} (hclosing : o.closing? = some c)
      (hinside : Nested inside) (hafter : Nested after) : Nested (o :: (inside ++ c :: after))

namespace Nested

variable {ts us rest : List Token}

theorem append (h : Nested ts) (hus : Nested us) : Nested (ts ++ us) := by
  induction h with
  | nil => exact hus
  | atom hopen hclose _ ih => exact .atom hopen hclose ih
  | group hclosing hinside _ _ ih => simpa using Nested.group hclosing hinside ih

theorem of_atoms (h : ∀ t ∈ ts, t.opensGroup = false ∧ t.closesGroup = false) : Nested ts := by
  induction ts with
  | nil => exact .nil
  | cons t ts ih =>
    obtain ⟨hopen, hclose⟩ := h t List.mem_cons_self
    exact .atom hopen hclose (ih fun u hu => h u (List.mem_cons_of_mem t hu))

theorem flatMap {α : Type} {f : α → List Token} {l : List α} (h : ∀ x ∈ l, Nested (f x)) :
    Nested (l.flatMap f) := by
  induction l with
  | nil => exact .nil
  | cons x l ih =>
    exact (h x List.mem_cons_self).append (ih fun y hy => h y (List.mem_cons_of_mem x hy))

theorem not_opensArguments {t : Token} (h : t.opensGroup = false) : t.opensArguments = false := by
  revert h
  cases t <;> simp [Token.opensGroup, Token.opensArguments]

theorem ne_closeParen {t : Token} (h : t.closesGroup = false) : (t == .closeParen) = false := by
  revert h
  cases t <;> simp [Token.closesGroup]

/-- Matched tokens are passed over on the way to the end of the arguments. -/
theorem splitAtClose? (h : Nested ts) (depth : Nat) (rest : List Token) :
    WebStyle.splitAtClose? Token.opensArguments (· == .closeParen) depth (ts ++ rest) =
      (WebStyle.splitAtClose? Token.opensArguments (· == .closeParen) depth rest).map
        fun p => (ts ++ p.1, p.2) := by
  induction h generalizing depth rest with
  | nil => simp
  | atom hopen hclose _ ih =>
    simp [WebStyle.splitAtClose?, not_opensArguments hopen, ne_closeParen hclose, ih,
      Function.comp_def]
  | group hclosing _ _ ihi iha =>
    unfold Token.closing? at hclosing
    split at hclosing
    case h_4 => simp at hclosing
    all_goals
      obtain rfl := Option.some.inj hclosing
      simp [WebStyle.splitAtClose?, Token.opensArguments, ihi, iha, Function.comp_def]

/-- Matched tokens among which none separates stay in one piece. -/
theorem splitOutside (h : Nested ts) {separates : Token → Bool}
    (hsep : ∀ t ∈ ts, separates t = false) {depth : Nat} {piece : List Token}
    {pieces : List (List Token)}
    (hrest : WebStyle.splitOutside Token.opensGroup Token.closesGroup separates depth rest =
      piece :: pieces) :
    WebStyle.splitOutside Token.opensGroup Token.closesGroup separates depth (ts ++ rest) =
      (ts ++ piece) :: pieces := by
  induction h generalizing depth rest piece with
  | nil => exact hrest
  | @atom t ts hopen hclose _ ih =>
    have hts := ih (fun u hu => hsep u (List.mem_cons_of_mem t hu)) hrest
    exact WebStyle.splitOutside_cons (hsep t List.mem_cons_self)
      (by simpa [hopen, hclose] using hts)
  | @group o c inside after hclosing _ _ ihi iha =>
    obtain ⟨ho, hc, hc'⟩ := Token.opensGroup_of_closing? hclosing
    have hafter := iha (fun u hu => hsep u (by simp [hu])) hrest
    have hclose : WebStyle.splitOutside Token.opensGroup Token.closesGroup separates (depth + 1)
        (c :: (after ++ rest)) = (c :: (after ++ piece)) :: pieces :=
      WebStyle.splitOutside_cons (hsep c (by simp)) (by simpa [hc, hc'] using hafter)
    have hinside := ihi (fun u hu => hsep u (by simp [hu])) hclose
    simpa using WebStyle.splitOutside_cons (hsep o (by simp)) (by simpa [ho] using hinside)

end Nested

/-! ### Blanks at the ends -/

@[simp] theorem skipBlanks_blank (ts : List Token) :
    skipBlanks (.blank :: ts) = skipBlanks ts := rfl

theorem skipBlanks_cons {t : Token} (h : t.isBlank = false) (ts : List Token) :
    skipBlanks (t :: ts) = t :: ts := List.dropWhile_cons_of_neg (by simp [h])

theorem not_isBlank_of_skipBlanks {t : Token} {ts r : List Token} (h : skipBlanks ts = t :: r) :
    t.isBlank = false := by
  induction ts with
  | nil => simp at h
  | cons u ts ih =>
    cases hu : u.isBlank with
    | true => exact ih (by rwa [skipBlanks, List.dropWhile_cons_of_pos hu] at h)
    | false =>
      rw [skipBlanks_cons hu] at h
      rw [← (List.cons.inj h).1]
      exact hu

/-- Runs of tokens with no blank at either end. -/
structure Tight (ts : List Token) : Prop where
  head : ∃ t r, ts = t :: r ∧ t.isBlank = false
  last : ∃ r t, ts = r ++ [t] ∧ t.isBlank = false

namespace Tight

variable {ts us : List Token}

theorem single {t : Token} (h : t.isBlank = false) : Tight [t] := ⟨⟨t, [], rfl, h⟩, ⟨[], t, rfl, h⟩⟩

theorem of_forall (hne : ts ≠ []) (h : ∀ t ∈ ts, t.isBlank = false) : Tight ts where
  head := by
    cases ts with
    | nil => exact absurd rfl hne
    | cons t r => exact ⟨t, r, rfl, h t List.mem_cons_self⟩
  last := ⟨ts.dropLast, ts.getLast hne, (List.dropLast_concat_getLast hne).symm,
    h _ (List.getLast_mem hne)⟩

theorem sandwich (h : Tight ts) (hus : Tight us) (between : List Token) :
    Tight (ts ++ between ++ us) := by
  obtain ⟨t, r, rfl, ht⟩ := h.head
  obtain ⟨r', u, rfl, hu⟩ := hus.last
  exact ⟨⟨t, _, rfl, ht⟩, ⟨_, u, (List.append_assoc _ r' [u]).symm, hu⟩⟩

theorem append (h : Tight ts) (hus : Tight us) : Tight (ts ++ us) := by
  simpa using h.sandwich hus []

theorem flatMap {α : Type} {f : α → List Token} {l : List α} (hne : l ≠ [])
    (h : ∀ x ∈ l, Tight (f x)) : Tight (l.flatMap f) := by
  induction l with
  | nil => exact absurd rfl hne
  | cons x l ih =>
    have hx := h x List.mem_cons_self
    cases l with
    | nil => simpa using hx
    | cons y l =>
      exact hx.append (ih (List.cons_ne_nil y l) fun z hz => h z (List.mem_cons_of_mem x hz))

theorem skipBlanks_append (h : Tight ts) (rest : List Token) :
    skipBlanks (ts ++ rest) = ts ++ rest := by
  obtain ⟨t, r, rfl, ht⟩ := h.head
  exact skipBlanks_cons ht _

theorem trimBlanks (h : Tight ts) : WebStyle.trimBlanks ts = ts := by
  have hskip := h.skipBlanks_append []
  obtain ⟨r, t, rfl, ht⟩ := h.last
  rw [List.append_nil] at hskip
  simp [WebStyle.trimBlanks, trimBy, hskip, ht]

/-- Blanks around tokens are trimmed off. -/
theorem trimBlanks_between (h : Tight ts) (before after : List Token)
    (hbefore : ∀ t ∈ before, t.isBlank) (hafter : ∀ t ∈ after, t.isBlank) :
    WebStyle.trimBlanks (before ++ ts ++ after) = ts := by
  have hskip : (before ++ ts ++ after).dropWhile Token.isBlank = ts ++ after := by
    rw [List.append_assoc, List.dropWhile_append_of_pos hbefore]
    exact h.skipBlanks_append after
  obtain ⟨r, t, rfl, ht⟩ := h.last
  have hback : (r ++ [t] ++ after).reverse.dropWhile Token.isBlank = t :: r.reverse := by
    rw [List.reverse_append, List.dropWhile_append_of_pos fun u hu =>
      hafter u (List.mem_reverse.1 hu)]
    simp [ht]
  rw [WebStyle.trimBlanks, trimBy, hskip, hback]
  simp

/-- What trimming leaves, if it leaves something. -/
theorem of_trimBlanks (h : WebStyle.trimBlanks ts ≠ []) :
    Tight (WebStyle.trimBlanks ts) ∧ ∃ before after, (∀ t ∈ before, t.isBlank) ∧
      (∀ t ∈ after, t.isBlank) ∧ ts = before ++ WebStyle.trimBlanks ts ++ after := by
  have hback : WebStyle.trimBlanks ts ++ (skipBlanks ts).rtakeWhile Token.isBlank = skipBlanks ts :=
    List.rdropWhile_append_rtakeWhile
  refine ⟨⟨?_, ?_⟩, ts.takeWhile Token.isBlank, (skipBlanks ts).rtakeWhile Token.isBlank,
    fun t ht => List.mem_takeWhile_imp ht, fun t ht => List.mem_rtakeWhile_imp ht, ?_⟩
  · cases htrim : WebStyle.trimBlanks ts with
    | nil => exact absurd htrim h
    | cons t r =>
      rw [htrim] at hback
      exact ⟨t, r, rfl, not_isBlank_of_skipBlanks hback.symm⟩
  · exact ⟨_, _, (List.dropLast_concat_getLast h).symm,
      Bool.eq_false_iff.2 (List.rdropWhile_last_not (p := Token.isBlank) (skipBlanks ts) h)⟩
  · rw [List.append_assoc, hback]
    exact List.takeWhile_append_dropWhile.symm

theorem trimBlanks_blank (h : Tight ts) : WebStyle.trimBlanks (.blank :: ts) = ts := by
  rw [WebStyle.trimBlanks, trimBy, List.dropWhile_cons_of_pos rfl]
  exact h.trimBlanks

end Tight

theorem exists_trimBlanks_cons {t : Token} (ht : t.isBlank = false) (r : List Token) :
    ∃ r', trimBlanks (t :: r) = t :: r' := by
  have hne : trimBlanks (t :: r) ≠ [] := fun heq => by
    rw [trimBy_eq_nil_iff.1 heq t List.mem_cons_self] at ht
    cases ht
  obtain ⟨-, before, after, hbefore, -, heq⟩ := Tight.of_trimBlanks hne
  obtain ⟨u, r', htrim⟩ := List.exists_cons_of_ne_nil hne
  cases before with
  | nil =>
    rw [htrim, List.nil_append, List.cons_append] at heq
    exact ⟨r', htrim.trans (congrArg (· :: r') (List.cons.inj heq).1.symm)⟩
  | cons b before =>
    obtain rfl : t = b := (List.cons.inj heq).1
    rw [hbefore t List.mem_cons_self] at ht
    cases ht

theorem trimBlanks_append_blanks {bs : List Token} (hbs : ∀ b ∈ bs, b.isBlank) (ts : List Token) :
    trimBlanks (ts ++ bs) = trimBlanks ts := by
  by_cases hnil : trimBlanks ts = []
  · rw [hnil]
    exact trimBy_eq_nil_iff.2 (List.forall_mem_append.2 ⟨trimBy_eq_nil_iff.1 hnil, hbs⟩)
  · obtain ⟨htight, before, after, hbefore, hafter, heq⟩ := Tight.of_trimBlanks hnil
    conv_lhs => rw [heq, List.append_assoc]
    exact htight.trimBlanks_between before (after ++ bs) hbefore
      (List.forall_mem_append.2 ⟨hafter, hbs⟩)

/-! ### Pieces between commas -/

/-- Tokens that neither group nor separate. -/
def Token.isPlain (t : Token) : Bool :=
  !t.opensGroup && !t.closesGroup && !t.isBlank && t != .comma

/-- Runs of tokens that the cutting at commas leaves as they are. -/
structure Piece (ts : List Token) : Prop where
  nested : Nested ts
  tight : Tight ts
  noComma : .comma ∉ ts

namespace Piece

variable {ts us : List Token}

theorem of_plain (hne : ts ≠ []) (h : ∀ t ∈ ts, t.isPlain) : Piece ts := by
  have hplain : ∀ t ∈ ts, t.opensGroup = false ∧ t.closesGroup = false ∧ t.isBlank = false ∧
      t ≠ .comma := by
    intro t ht
    simpa [Token.isPlain, and_assoc] using h t ht
  exact ⟨.of_atoms fun t ht => ⟨(hplain t ht).1, (hplain t ht).2.1⟩,
    .of_forall hne fun t ht => (hplain t ht).2.2.1, fun hc => (hplain _ hc).2.2.2 rfl⟩

theorem group {o c : Token} (hclosing : o.closing? = some c) (hinside : Nested us)
    (hcomma : .comma ∉ us) : Piece (o :: (us ++ [c])) := by
  have hends : o.isBlank = false ∧ c.isBlank = false ∧ o ≠ .comma ∧ c ≠ .comma := by
    unfold Token.closing? at hclosing
    split at hclosing
    case h_4 => simp at hclosing
    all_goals exact Option.some.inj hclosing ▸ ⟨rfl, rfl, by simp, by simp⟩
  obtain ⟨ho, hc, hoc, hcc⟩ := hends
  exact ⟨.group hclosing hinside .nil, ⟨⟨o, _, rfl, ho⟩, ⟨o :: us, c, rfl, hc⟩⟩, by
    simp [hoc.symm, hcc.symm, hcomma]⟩

theorem sandwich (h : Piece ts) (hus : Piece us) {between : List Token} (hnested : Nested between)
    (hcomma : .comma ∉ between) : Piece (ts ++ between ++ us) where
  nested := (h.nested.append hnested).append hus.nested
  tight := h.tight.sandwich hus.tight between
  noComma := by simp [h.noComma, hus.noComma, hcomma]

theorem append (h : Piece ts) (hus : Piece us) : Piece (ts ++ us) := by
  simpa using h.sandwich hus .nil (List.not_mem_nil)

theorem flatMap {α : Type} {f : α → List Token} {l : List α} (hne : l ≠ [])
    (h : ∀ x ∈ l, Piece (f x)) : Piece (l.flatMap f) where
  nested := .flatMap fun x hx => (h x hx).nested
  tight := .flatMap hne fun x hx => (h x hx).tight
  noComma := by
    intro hc
    obtain ⟨x, hx, hc⟩ := List.mem_flatMap.1 hc
    exact (h x hx).noComma hc

end Piece

/-! ### Texts that are read as given tokens -/

/-- Whether a text is read as the given tokens, whatever may follow an identifier. -/
structure LexesTo (cs : List Char) (ts : List Token) : Prop where
  normal : ∀ c ∈ cs, IsNormal c
  tokens_append : ∀ {r : List Char}, EndsIdent r → tokens (cs ++ r) = ts ++ tokens r

namespace LexesTo

variable {cs ds : List Char} {ts us : List Token}

theorem nil : LexesTo [] [] := ⟨by simp, fun _ => rfl⟩

theorem append (h : LexesTo cs ts) (hds : LexesTo ds us)
    (hends : ∀ {r : List Char}, EndsIdent r → EndsIdent (ds ++ r)) :
    LexesTo (cs ++ ds) (ts ++ us) where
  normal c hc := (List.mem_append.1 hc).elim (h.normal c) (hds.normal c)
  tokens_append hr := by
    rw [List.append_assoc, h.tokens_append (hends hr), hds.tokens_append hr, List.append_assoc]

/-- A character that is a token of its own. -/
theorem single {c : Char} (h : c ∈ singles) : LexesTo [c] [Lexer.single c] where
  normal d hd := by
    obtain rfl := List.mem_singleton.1 hd
    simp only [singles, List.mem_cons, List.not_mem_nil, or_false] at h
    rcases h with rfl | rfl | rfl | rfl | rfl | rfl | rfl | rfl | rfl | rfl | rfl | rfl | rfl <;>
      exact ⟨by decide, by decide, by decide⟩
  tokens_append _ := tokens_single h _

/-- A character that is a token of its own may stand before any text. -/
theorem cons {c : Char} (hc : c ∈ singles) (h : LexesTo ds us) :
    LexesTo (c :: ds) (Lexer.single c :: us) where
  normal d hd := (List.mem_cons.1 hd).elim
    (fun heq => (single hc).normal d (heq ▸ List.mem_singleton_self c)) (h.normal d)
  tokens_append hr := by
    rw [List.cons_append, tokens_single hc, h.tokens_append hr, List.cons_append]

end LexesTo

/-- Whether a text with blanks at its ends is read as the given tokens between two others. -/
structure Separates (cs : List Char) (ts : List Token) : Prop where
  normal : ∀ c ∈ cs, IsNormal c
  endsIdent : ∀ r : List Char, EndsIdent (cs ++ r)
  tokens_append : ∀ {r : List Char}, StartsToken r → tokens (cs ++ r) = ts ++ tokens r

theorem separates_blank : Separates [' '] [.blank] where
  normal := by simp [IsNormal]
  endsIdent r := by
    rintro c ⟨⟩
    decide
  tokens_append hr := tokens_blank hr

theorem LexesTo.join {cs ds sep : List Char} {ts us seps : List Token} (h : LexesTo cs ts)
    (hsep : Separates sep seps) (hds : LexesTo ds us)
    (hstarts : ∀ r : List Char, StartsToken (ds ++ r)) :
    LexesTo (cs ++ sep ++ ds) (ts ++ seps ++ us) where
  normal c hc := by
    rcases List.mem_append.1 hc with hc | hc
    · exact (List.mem_append.1 hc).elim (h.normal c) (hsep.normal c)
    · exact hds.normal c hc
  tokens_append {r} hr := by
    rw [List.append_assoc, List.append_assoc, h.tokens_append (hsep.endsIdent _),
      hsep.tokens_append (hstarts r), hds.tokens_append hr, List.append_assoc, List.append_assoc]

/-! ### Texts that are read as tokens of a kind -/

/-- Whether a text is read as tokens of a kind, whatever may follow an identifier. -/
structure LexesAs (cs : List Char) (P : List Token → Prop) : Prop where
  normal : ∀ c ∈ cs, IsNormal c
  exists_tokens : ∀ {r : List Char}, EndsIdent r → ∃ ts, P ts ∧ tokens (cs ++ r) = ts ++ tokens r

theorem LexesTo.lexesAs {cs : List Char} {ts : List Token} {P : List Token → Prop}
    (h : LexesTo cs ts) (hP : P ts) : LexesAs cs P :=
  ⟨h.normal, fun hr => ⟨ts, hP, h.tokens_append hr⟩⟩

namespace LexesAs

variable {cs ds sep : List Char} {seps : List Token} {P Q R : List Token → Prop}

theorem append (h : LexesAs cs P) (hds : LexesAs ds Q)
    (hends : ∀ {r : List Char}, EndsIdent r → EndsIdent (ds ++ r))
    (hR : ∀ {ts us}, P ts → Q us → R (ts ++ us)) : LexesAs (cs ++ ds) R where
  normal := List.forall_mem_append.2 ⟨h.normal, hds.normal⟩
  exists_tokens {r} hr := by
    obtain ⟨us, hus, hread⟩ := hds.exists_tokens hr
    obtain ⟨ts, hts, hmore⟩ := h.exists_tokens (hends hr)
    exact ⟨ts ++ us, hR hts hus, by rw [List.append_assoc, hmore, hread, List.append_assoc]⟩

/-- A text after what separates it from another. -/
theorem separated (hsep : Separates sep seps) (h : LexesAs ds P)
    (hstarts : ∀ r : List Char, StartsToken (ds ++ r)) (hR : ∀ {ts}, P ts → R (seps ++ ts)) :
    LexesAs (sep ++ ds) R where
  normal := List.forall_mem_append.2 ⟨hsep.normal, h.normal⟩
  exists_tokens {r} hr := by
    obtain ⟨ts, hts, hread⟩ := h.exists_tokens hr
    refine ⟨seps ++ ts, hR hts, ?_⟩
    rw [List.append_assoc, hsep.tokens_append (hstarts r), hread, List.append_assoc]

/-- The whole of a text. -/
theorem tokenize (h : LexesAs cs P) : P (tokenize (String.ofList cs)) := by
  obtain ⟨ts, hts, hread⟩ := h.exists_tokens (r := []) (by simp [EndsIdent])
  rw [List.append_nil, tokens_nil, List.append_nil] at hread
  rwa [Lexer.tokenize, String.toList_ofList, normalize_of_isNormal h.normal, hread]

section

variable {α : Type} {f : α → List Char} {A : α → List Token → Prop}
  {B : List α → List Token → Prop} {l : List α} (hsep : Separates sep seps)
include hsep

theorem endsIdent_flatMap (l : List α) {r : List Char} (hr : EndsIdent r) :
    EndsIdent (l.flatMap (sep ++ f ·) ++ r) := by
  cases l with
  | nil => exact hr
  | cons x l =>
    rw [List.flatMap_cons, List.append_assoc, List.append_assoc]
    exact hsep.endsIdent _

variable (h : ∀ x ∈ l, LexesAs (f x) (A x)) (hstarts : ∀ x ∈ l, ∀ r, StartsToken (f x ++ r))
  (nil : B [] []) (cons : ∀ {x l ts us}, A x ts → B l us → B (x :: l) (seps ++ ts ++ us))
include h hstarts nil cons

/-- Texts with a separator before each. -/
theorem flatMap : LexesAs (l.flatMap (sep ++ f ·)) (B l) := by
  induction l with
  | nil => exact LexesTo.nil.lexesAs nil
  | cons x l ih =>
    have hx := (h x List.mem_cons_self).separated hsep (hstarts x List.mem_cons_self)
      (R := fun ts => ∃ us, A x us ∧ ts = seps ++ us) fun hus => ⟨_, hus, rfl⟩
    have hl := ih (fun y hy => h y (List.mem_cons_of_mem x hy))
      fun y hy => hstarts y (List.mem_cons_of_mem x hy)
    refine hx.append hl (endsIdent_flatMap hsep l) ?_
    rintro _ us ⟨ts, hts, rfl⟩ hus
    exact cons hts hus

/-- A text and others after it, with a separator before each of them. -/
theorem join (hds : LexesAs ds Q) (hR : ∀ {ts us}, Q ts → B l us → R (ts ++ us)) :
    LexesAs (ds ++ l.flatMap (sep ++ f ·)) R :=
  hds.append (flatMap hsep h hstarts nil cons) (endsIdent_flatMap hsep l) hR

end

end LexesAs

end WebStyle
