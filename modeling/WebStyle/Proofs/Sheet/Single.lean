import WebStyle.Proofs.Sheet.Recovery
import WebStyle.Proofs.Token.Nesting
/-!
Texts of one rule. A text that is read as exactly one rule is a sheet of that rule: the reading
starts at the same token and reaches as far, but for the blanks around the rule, and these make no
difference to it.
-/
set_option autoImplicit false

namespace WebStyle

variable {t : Token} {ts bs : List Token}

/-! ### Tokens that start no selector -/

namespace SelectorReader

theorem readCompound?_eq_none (ht : continuesCompound t = false) (r : List Token) :
    readCompound? (t :: r) = none := by
  have htype : readType (t :: r) = ([], t :: r) := by
    unfold readType
    split <;> simp_all [continuesCompound]
  have helement : readElement? (t :: r) = none := by
    unfold readElement?
    split <;> simp_all [continuesCompound]
  have hsimples : readSimples? (t :: r) = some ([], t :: r) := by
    rw [readSimples?, if_pos (by simp [ht])]
  simp only [readCompound?, htype, Option.bind_eq_bind]
  split
  · rfl
  · simp [hsimples, helement]

end SelectorReader

theorem SelectorList.ofTokens?_eq_none (ht : SelectorReader.continuesCompound t = false)
    (hblank : t.isBlank = false) (hcomma : t ≠ .comma) (r : List Token) :
    SelectorList.ofTokens? (t :: r) = none := by
  obtain ⟨piece, pieces, hpieces⟩ := List.exists_cons_of_ne_nil
    (splitOutside_ne_nil Token.opensGroup Token.closesGroup (· == .comma)
      (if t.opensGroup then 0 + 1 else if t.closesGroup then 0 - 1 else 0) r)
  obtain ⟨piece', htrim⟩ := exists_trimBlanks_cons hblank piece
  rw [ofTokens?, splitOutside_cons (by simpa using hcomma) hpieces, List.mapM_cons, htrim,
    ComplexSelector.ofTokens?, SelectorReader.readCompound?_eq_none ht]
  rfl

namespace RuleReader

/-! ### Blanks after a rule -/

/-- Blanks after the tokens follow the rule, or belong to its prelude if nothing ends it. -/
def Extent.appendBlanks (bs : List Token) : Extent → Extent
  | .unended prelude => .unended (prelude ++ bs)
  | e => e.append bs

variable {e : Extent}

theorem extent_blanks (hbs : ∀ b ∈ bs, b.isBlank) (depth : Nat) :
    extent depth bs = .unended bs := by
  induction bs with
  | nil => rfl
  | cons b bs ih =>
    have hb : b = .blank := by
      have := hbs b List.mem_cons_self
      cases b <;> first | rfl | cases this
    rw [hb, extent]
    simp [Token.opensGroup, Token.closesGroup, ih fun b hb => hbs b (List.mem_cons_of_mem _ hb),
      Extent.cons]

theorem Extent.appendBlanks_cons (t : Token) :
    (e.cons t).appendBlanks bs = (e.appendBlanks bs).cons t := by
  cases e <;> rfl

theorem extent_append_blanks (hbs : ∀ b ∈ bs, b.isBlank) (depth : Nat) (ts : List Token) :
    extent depth (ts ++ bs) = (extent depth ts).appendBlanks bs := by
  have hclose : ∀ b ∈ bs, (b == .closeBrace) = false := fun b hb => by
    have := hbs b hb
    cases b <;> first | rfl | cases this
  fun_induction extent depth ts with
  | case1 depth => exact extent_blanks hbs depth
  | case2 depth t r ho body rest hsplit =>
    rw [List.cons_append, extent, if_pos ho, splitAtClose?_append hsplit]
    rfl
  | case3 depth t r ho hsplit =>
    rw [List.cons_append, extent, if_pos ho, splitAtClose?_append_of_eq_none hsplit hclose]
    rfl
  | case4 depth t r ho hend =>
    rw [List.cons_append, extent, if_neg ho, if_pos hend]
    rfl
  | case5 depth t r ho hend depth' ih =>
    rw [List.cons_append, extent, if_neg ho, if_neg hend, Extent.appendBlanks_cons]
    exact congrArg (Extent.cons t) ih

theorem rule_styleRule_appendBlanks (us : List Token) :
    (styleRule us (e.appendBlanks bs)).rule = (styleRule ts e).rule := by
  cases e <;> rfl

theorem rule_atRule_appendBlanks (hbs : ∀ b ∈ bs, b.isBlank) (us : List Token) (name : String)
    (allowed : Bool) (inner : List RuleSource × List Dropped) :
    (atRule name allowed us inner (e.appendBlanks bs)).rule =
      (atRule name allowed ts inner e).rule := by
  have hblock : ∀ build, (blockRule us build (e.appendBlanks bs)).rule =
      (blockRule ts build e).rule := by
    intro build
    cases e <;> rfl
  have himport : (importRule us allowed (e.appendBlanks bs)).rule =
      (importRule ts allowed e).rule := by
    cases e with
    | unended prelude =>
      simp only [Extent.appendBlanks, importRule, trimBlanks_append_blanks hbs]
    | block | unclosed | statement => rfl
  unfold atRule
  split
  · exact himport
  · exact hblock _
  · exact hblock _
  · exact hblock _
  · rfl

theorem readRules_blanks_append (hbs : ∀ b ∈ bs, b.isBlank) (topLevel allowed : Bool)
    (us : List Token) : readRules topLevel allowed (bs ++ us) = readRules topLevel allowed us := by
  induction bs with
  | nil => rfl
  | cons b bs ih =>
    rw [List.cons_append, readRules_skip (by simp [hbs b List.mem_cons_self])]
    exact ih fun b hb => hbs b (List.mem_cons_of_mem _ hb)

theorem readRules_blanks (hbs : ∀ b ∈ bs, b.isBlank) (topLevel allowed : Bool) :
    readRules topLevel allowed bs = ([], []) := by
  have h := readRules_blanks_append hbs topLevel allowed []
  rwa [List.append_nil, readRules] at h

/-- What follows a rule that nothing but blanks follow. -/
theorem readRules_rest_appendBlanks (hbs : ∀ b ∈ bs, b.isBlank)
    (h : (trimBlanks e.rest).isEmpty) (topLevel allowed : Bool) :
    readRules topLevel allowed (e.appendBlanks bs).rest = ([], []) := by
  refine readRules_blanks (fun b hb => ?_) topLevel allowed
  have hrest : ∀ b ∈ e.rest, b.isBlank := trimBy_eq_nil_iff.1 (List.isEmpty_iff.1 h)
  cases e with
  | block | statement => exact (List.mem_append.1 hb).elim (hrest b) (hbs b)
  | unclosed | unended => cases hb

/-! ### One rule -/

theorem rule_styleRule_cons (ht : SelectorReader.continuesCompound t = false)
    (hblank : t.isBlank = false) (hcomma : t ≠ .comma) :
    (styleRule ts (e.cons t)).rule = none := by
  cases e with
  | block prelude body rest =>
    obtain ⟨prelude', htrim⟩ := exists_trimBlanks_cons hblank prelude
    simp only [Extent.cons, styleRule, htrim,
      SelectorList.ofTokens?_eq_none ht hblank hcomma]
    rfl
  | unclosed | statement | unended => rfl

/-- A style rule does not start with a token that is passed over between rules. -/
theorem starts_of_styleRule {r : List Token} {source : RuleSource} (hblank : t.isBlank = false)
    (h : (styleRule ts (extent 0 (t :: r))).rule = some source) :
    ¬ (t.isBlank || (true && (t == .markupOpen || t == .markupClose))) ∧
      ¬ (t = .closeBrace ∨ t = .semicolon) := by
  constructor
  · intro hskip
    have hmarkup : t = .markupOpen ∨ t = .markupClose := by simpa [hblank] using hskip
    have hnone : (styleRule ts (extent 0 (t :: r))).rule = none := by
      obtain rfl | rfl := hmarkup <;> exact rule_styleRule_cons rfl rfl (by decide)
    cases hnone.symm.trans h
  · rintro (rfl | rfl) <;> cases h

theorem rules_readRules_of_readOne {r rest : List Token} {reading : Reading} {source : RuleSource}
    (h : readOne (t :: r) = (reading, rest)) (hrule : reading.rule = some source)
    (hrest : (trimBlanks rest).isEmpty) (hblank : t.isBlank = false)
    (hbs : ∀ b ∈ bs, b.isBlank) : (readRules true true (t :: (r ++ bs))).1 = [source] := by
  by_cases hat : ∃ name, t = .atKeyword name
  · obtain ⟨name, rfl⟩ := hat
    obtain ⟨rfl, rfl⟩ := Prod.mk.inj h
    -- The rules inside are those of the body, which the blanks are no part of.
    have hbody : ((extent 0 r).appendBlanks bs).body = (extent 0 r).body := by
      cases extent 0 r <;> rfl
    rw [readRules_atKeyword, extent_append_blanks hbs, hbody,
      readRules_rest_appendBlanks hbs hrest, Reading.before, List.append_nil,
      rule_atRule_appendBlanks hbs, hrule]
    rfl
  · have hone : readOne (t :: r) =
        (styleRule (t :: r) (extent 0 (t :: r)), (extent 0 (t :: r)).rest) := by
      unfold readOne
      split
      · rename_i name r' heq
        exact absurd ⟨name, (List.cons.inj heq).1⟩ hat
      · rfl
    obtain ⟨rfl, rfl⟩ := Prod.mk.inj (hone.symm.trans h)
    obtain ⟨hskip, hstray⟩ := starts_of_styleRule hblank hrule
    rw [readRules_style hskip hstray hat, ← List.cons_append, extent_append_blanks hbs,
      readRules_rest_appendBlanks hbs hrest, Reading.before, List.append_nil,
      rule_styleRule_appendBlanks, hrule]
    rfl

end RuleReader

open RuleReader in
/-- A text that is read as one rule is a sheet of that rule. -/
theorem SheetSource.rules_ofString_of_rule {text : String} {source : RuleSource}
    (h : RuleSource.ofString text = .ok source) : (SheetSource.ofString text).rules = [source] := by
  unfold RuleSource.ofString at h
  split at h
  · cases h
  · rename_i t r htrim
    have hne : trimBlanks (tokenize text) ≠ [] := by simp [htrim]
    obtain ⟨htight, before, after, hbefore, hafter, heq⟩ := Tight.of_trimBlanks hne
    rw [htrim] at htight heq
    obtain ⟨u, r', hcons, hblank⟩ := htight.head
    obtain ⟨rfl, rfl⟩ := List.cons.inj hcons
    have hread : ∀ {source : RuleSource}, (readOne (t :: r)).1.rule = some source →
        (trimBlanks (readOne (t :: r)).2).isEmpty → (readRules true true (tokenize text)).1 =
          [source] := by
      intro source hrule hrest
      rw [heq, List.append_assoc, readRules_blanks_append hbefore, List.cons_append]
      exact rules_readRules_of_readOne rfl hrule hrest hblank hafter
    simp only at h
    split at h
    · rename_i rule hrule
      split at h
      · obtain rfl := Except.ok.inj h
        exact hread hrule ‹_›
      · cases h
    · split at h <;> cases h
    · cases h

end WebStyle
