import WebStyle.Proofs.Token.Joined
import WebStyle.Proofs.Token.Spelled
import WebStyle.Property.Shorthand
/-!
The components that shorthands take: single numbers and words, hexadecimal colors, and color
functions. If the text of one is canonical, it is read as one component where it stands between
blanks, and lowering its letters changes nothing about what it is.
-/
set_option autoImplicit false

namespace WebStyle

open Lexer

variable {c : Char} {cs : List Char} {t : Token} {ts : List Token} {text : String}

/-! ### Letters -/

/-- Whether a text is made of letters, of which there is at least one. -/
def isLetters (text : String) : Bool := text != "" && text.toList.all Char.isAlpha

theorem isAlpha_toLower (c : Char) : c.toLower.isAlpha = c.isAlpha := by
  rw [Bool.eq_iff_iff, isAlpha_iff_toNat, isAlpha_iff_toNat, toNat_toLower]
  split <;> omega

theorem isLetters_lower (text : String) : isLetters (Text.lower text) = isLetters text := by
  have hall : (Text.lower text).toList.all Char.isAlpha = text.toList.all Char.isAlpha := by
    rw [Text.toList_lower, List.all_map]
    exact congrArg _ (funext isAlpha_toLower)
  have hempty : (Text.lower text != "") = (text != "") := by
    rw [Bool.eq_iff_iff, bne_iff_ne, bne_iff_ne]
    refine ⟨?_, Text.lower_ne_empty⟩
    rintro h rfl
    exact h rfl
  rw [isLetters, isLetters, hall, hempty]

theorem isLetters_of_lookup {α : Type} {table : List (String × α)} {x : α}
    (htable : ∀ p ∈ table, isLetters p.1) (h : table.lookup (Text.lower text) = some x) :
    isLetters text := by
  obtain ⟨l, r, heq, -⟩ := List.lookup_eq_some_iff.1 h
  rw [← isLetters_lower]
  exact htable (Text.lower text, x) (heq ▸ by simp)

/-! ### The tokens of a component -/

/-- Numbers, with or without a unit. -/
def Token.isOperand : Token → Bool
  | .number _ | .percentage _ => true
  | .dimension _ unit => isLetters unit
  | _ => false

/-- What may stand between the arguments of a color function. -/
def Token.isSeparator : Token → Bool
  | .blank | .comma | .delim '/' => true
  | _ => false

/-- The tokens that numbers, keywords and colors have. -/
inductive IsSimple : List Token → Prop where
  | operand {t : Token} (h : t.isOperand) : IsSimple [t]
  | word {name : String} (h : isLetters name) : IsSimple [.ident name]
  | hash {hex : String} (isId : Bool) (hne : hex ≠ "") (h : hex.toList.all Text.isHexDigit) :
    IsSimple [.hash hex isId]
  | function {name : String} {args : List Token} (h : isLetters name)
    (hargs : ∀ t ∈ args, t.isOperand || t.isSeparator) :
    IsSimple (.function name :: (args ++ [.closeParen]))

theorem isLetters_units : ∀ p ∈ LengthUnit.named, isLetters p.1 := by decide

theorem isLetters_colors : ∀ p ∈ Color.named, isLetters p.1 := by
  have hall : (Color.named.map Prod.fst).all isLetters := by decide
  exact fun p hp => List.all_eq_true.1 hall _ (List.mem_map_of_mem hp)

theorem isOperand_of_rgbChannel? {x : UInt8} (h : Color.rgbChannel? t = some x) : t.isOperand := by
  cases t <;> first | rfl | cases h

theorem isOperand_of_hue? {x : Float} (h : Color.hue? t = some x) : t.isOperand := by
  cases t with
  | number n => rfl
  | dimension n unit =>
    simp only [Color.hue?] at h
    split at h
    · rename_i hdeg
      rw [Token.isOperand, ← isLetters_lower, beq_iff_eq.1 hdeg]
      decide
    · cases h
  | _ => cases h

theorem isOperand_of_share? {x : Float} (h : Color.share? t = some x) : t.isOperand := by
  cases t <;> first | rfl | cases h

theorem isOperand_of_alpha? {alpha : List Token} {x : Float} (hlength : ¬ 1 < alpha.length)
    (h : Color.alpha? alpha = some x) : ∀ t ∈ alpha, t.isOperand := by
  match alpha with
  | [] => simp
  | [t] =>
    refine List.forall_mem_singleton.2 ?_
    cases t <;> first | rfl | cases h
  | _ :: _ :: _ => simp at hlength

theorem isOperand_of_ofRgb? {r g b : Token} {alpha : List Token} {c : Color}
    (hlength : ¬ 1 < alpha.length) (h : Color.ofRgb? r g b alpha = some c) :
    ∀ t ∈ r :: g :: b :: alpha, t.isOperand := by
  simp only [Color.ofRgb?, Option.bind_eq_bind, Option.bind_eq_some_iff] at h
  obtain ⟨_, hr, _, hg, _, hb, _, halpha, -⟩ := h
  exact List.forall_mem_cons.2 ⟨isOperand_of_rgbChannel? hr, List.forall_mem_cons.2
    ⟨isOperand_of_rgbChannel? hg, List.forall_mem_cons.2
      ⟨isOperand_of_rgbChannel? hb, isOperand_of_alpha? hlength halpha⟩⟩⟩

theorem isOperand_of_ofHsl? {hue saturation lightness : Token} {alpha : List Token} {c : Color}
    (hlength : ¬ 1 < alpha.length) (h : Color.ofHsl? hue saturation lightness alpha = some c) :
    ∀ t ∈ hue :: saturation :: lightness :: alpha, t.isOperand := by
  simp only [Color.ofHsl?, Option.bind_eq_bind, Option.bind_eq_some_iff] at h
  obtain ⟨_, hhue, _, hsaturation, _, hlightness, _, halpha, -⟩ := h
  exact List.forall_mem_cons.2 ⟨isOperand_of_hue? hhue, List.forall_mem_cons.2
    ⟨isOperand_of_share? hsaturation, List.forall_mem_cons.2
      ⟨isOperand_of_share? hlightness, isOperand_of_alpha? hlength halpha⟩⟩⟩

theorem isSimple_of_ofFunction? {name : String} {args : List Token} {c : Color}
    (h : Color.ofFunction? name args = some c) :
    IsSimple (.function name :: (args ++ [.closeParen])) := by
  have hletters : ∀ {word : String}, Text.lower name = word → isLetters word → isLetters name :=
    fun hword h => by rwa [← isLetters_lower, hword]
  have hargs : (∀ t ∈ Color.arguments args, t.isOperand) →
      ∀ t ∈ args, t.isOperand || t.isSeparator := by
    intro hoperand t ht
    cases hsep : t.isSeparator with
    | true => rw [Bool.or_true]
    | false =>
      rw [Bool.or_false]
      refine hoperand t (List.mem_filter.2 ⟨ht, ?_⟩)
      revert hsep
      unfold Token.isSeparator
      split <;> simp_all
  unfold Color.ofFunction? at h
  split at h
  · rename_i a b d alpha heq
    rw [heq] at hargs
    split at h
    · cases h
    · rename_i hlength
      split at h
      · rename_i hname
        exact .function (hletters hname (by decide)) (hargs (isOperand_of_ofRgb? hlength h))
      · rename_i hname
        exact .function (hletters hname (by decide)) (hargs (isOperand_of_ofRgb? hlength h))
      · rename_i hname
        exact .function (hletters hname (by decide)) (hargs (isOperand_of_ofHsl? hlength h))
      · rename_i hname
        exact .function (hletters hname (by decide)) (hargs (isOperand_of_ofHsl? hlength h))
      · cases h
  · cases h

theorem isSimple_of_ofTokens? {c : Color} (h : Color.ofTokens? ts = some c) : IsSimple ts := by
  unfold Color.ofTokens? at h
  split at h
  · exact .word (isLetters_of_lookup isLetters_colors h)
  · rename_i hex isId
    simp only [Color.ofHex?] at h
    split at h
    · rename_i hhex
      refine .hash isId ?_ hhex
      rintro rfl
      cases h
    · cases h
  · rename_i name r
    split at h
    · rename_i hlast
      have hr : r = r.dropLast ++ [.closeParen] :=
        (List.dropLast_append_getLast? _ (beq_iff_eq.1 hlast)).symm
      rw [hr]
      exact isSimple_of_ofFunction? h
    · cases h
  · cases h

/-- What the components that shorthands take have in common. -/
def Component.isSimple : Component → Bool
  | .keyword name => isLetters name
  | .other _ => false
  | _ => true

theorem isSimple_ofTokens (h : (Component.ofTokens ts).isSimple) : IsSimple ts := by
  unfold Component.ofTokens at h
  split at h
  · split at h
    · rename_i hunit
      exact .operand (isLetters_of_lookup isLetters_units hunit)
    · cases h
  · exact .operand rfl
  · exact .operand rfl
  · rename_i name
    dsimp only at h
    split at h
    · rename_i hcolor
      exact isSimple_of_ofTokens? hcolor
    · rw [Component.isSimple, isLetters_lower] at h
      exact .word h
  · split at h
    · rename_i hcolor
      exact isSimple_of_ofTokens? hcolor
    · cases h

namespace Shorthand.Aspect

variable {aspect : Aspect}

/-- The keywords that an aspect takes, apart from the names of colors. -/
def keywords : Aspect → List String
  | .margin => ["auto"]
  | .padding => []
  | .width => ["thin", "medium", "thick"]
  | .style => borderStyles
  | .color => ["currentcolor"]

theorem takes_keyword {name : String} (h : Component.ofString text = .keyword name) :
    aspect.takes text ↔ name ∈ aspect.keywords := by
  cases aspect <;> simp [takes, h, keywords]

theorem isSimple_of_takes (h : aspect.takes text) : IsSimple (trimBlanks (tokenize text)) := by
  refine isSimple_ofTokens ?_
  change (Component.ofString text).isSimple
  cases hcomponent : Component.ofString text with
  | keyword name =>
    have hletters : ∀ a : Aspect, a.keywords.all isLetters := by
      intro a
      cases a <;> decide
    exact List.all_eq_true.1 (hletters aspect) name ((takes_keyword hcomponent).1 h)
  | other _ => cases aspect <;> simp [takes, hcomponent] at h
  | _ => rfl

end Shorthand.Aspect

/-! ### What is printed of tokens -/

namespace Printer

variable {last : Option Char} {owed : Bool}

/-- What is printed of tokens is printed of one of them, or is a blank between them. -/
theorem eq_or_mem_chars_of_mem_run (h : c ∈ run last owed ts) :
    c = ' ' ∨ ∃ t ∈ ts, c ∈ t.chars := by
  have hcons : ∀ {t : Token} {ts : List Token}, (c = ' ' ∨ ∃ u ∈ ts, c ∈ u.chars) →
      c = ' ' ∨ ∃ u ∈ t :: ts, c ∈ u.chars := fun h =>
    h.imp id fun ⟨u, hu, hc⟩ => ⟨u, List.mem_cons_of_mem _ hu, hc⟩
  fun_induction run last owed ts with
  | case1 => simp at h
  | case2 last owed ts ih => exact hcons (ih h)
  | case3 last owed ts ih =>
    rcases List.mem_cons.1 h with rfl | h
    · exact .inr ⟨_, List.mem_cons_self, List.mem_cons_self⟩
    · exact (List.mem_cons.1 h).elim .inl fun h => hcons (ih h)
  | case4 last owed ts ih =>
    rcases List.mem_cons.1 h with rfl | h
    · exact .inr ⟨_, List.mem_cons_self, List.mem_cons_self⟩
    · exact hcons (ih h)
  | case5 last owed t ts _ _ _ pays text ih =>
    rcases List.mem_append.1 h with h | h
    · rcases spaced_eq last owed t with heq | heq
      · rcases List.mem_cons.1 (heq ▸ h : c ∈ ' ' :: t.chars) with rfl | h
        · exact .inl rfl
        · exact .inr ⟨t, List.mem_cons_self, h⟩
      · exact .inr ⟨t, List.mem_cons_self, heq ▸ h⟩
    · exact hcons (ih h)

end Printer

/-! ### Characters of components -/

theorem IsInert.of_isNameChar (h : isNameChar c) : IsInert c := by
  intro hmem
  simp only [List.mem_cons, List.not_mem_nil, or_false] at hmem
  rcases hmem with rfl | rfl | rfl | rfl | rfl | rfl | rfl <;> exact absurd h (by decide)

theorem isNameStart_of_isAlpha (h : c.isAlpha) : isNameStart c := by
  simp [isNameStart, h]

theorem nameChar_of_isAlpha (h : c.isAlpha) : Printer.nameChar c = [c] := by
  have hcontrol : Text.isControl c = false := by
    rw [isAlpha_iff_toNat] at h
    simp only [Text.isControl, Bool.or_eq_false_iff, Bool.and_eq_false_iff, decide_eq_false_iff_not]
    omega
  simp [Printer.nameChar, hcontrol, isNameChar, isNameStart_of_isAlpha h]

theorem exists_of_isLetters (h : isLetters text) :
    ∃ c r, text.toList = c :: r ∧ c.isAlpha ∧ ∀ d ∈ r, d.isAlpha := by
  obtain ⟨hne, hall⟩ := Bool.and_eq_true_iff.1 h
  obtain ⟨c, r, heq⟩ := List.exists_cons_of_ne_nil (toList_ne_nil (bne_iff_ne.1 hne))
  rw [heq, List.all_eq_true] at hall
  exact ⟨c, r, heq, hall c List.mem_cons_self, fun d hd => hall d (List.mem_cons_of_mem c hd)⟩

/-- Letters are printed as they are. -/
theorem name_of_isLetters (h : isLetters text) : Printer.name text.toList = text.toList := by
  obtain ⟨c, r, heq, hc, hr⟩ := exists_of_isLetters h
  have hdigit : c.isDigit = false :=
    Bool.eq_false_iff.2 (not_isDigit_of_isNameStart (isNameStart_of_isAlpha hc))
  have hrest : r.flatMap Printer.nameChar = r := by
    rw [List.flatMap_congr fun d hd => nameChar_of_isAlpha (hr d hd)]
    exact List.flatMap_singleton' r
  have hminus : c ≠ '-' := by
    rintro rfl
    exact absurd hc (by decide)
  rw [heq, Printer.name]
  · rw [Printer.leadingChar, hdigit, hrest, nameChar_of_isAlpha hc]
    rfl
  · exact fun h _ => hminus h
  · exact fun _ _ h _ => hminus h

theorem isInert_numeral {n : Numeral} : ∀ c ∈ n.text.toList, IsInert c := by
  intro c hc
  rcases Numeral.cases_of_mem_text hc with rfl | rfl | hdigit
  · decide
  · decide
  · exact .of_isNameChar (by simp [isNameChar, hdigit])

theorem isInert_letters (h : isLetters text) : ∀ c ∈ text.toList, IsInert c := by
  intro c hc
  have halpha := List.all_eq_true.1 (Bool.and_eq_true_iff.1 h).2 c hc
  exact .of_isNameChar (by simp [isNameChar, isNameStart_of_isAlpha halpha])

theorem isInert_operand (h : t.isOperand) : ∀ c ∈ t.chars, IsInert c := by
  cases t with
  | number n => exact isInert_numeral
  | percentage n =>
    exact List.forall_mem_append.2 ⟨isInert_numeral, List.forall_mem_singleton.2 (by decide)⟩
  | dimension n unit => exact List.forall_mem_append.2 ⟨isInert_numeral, isInert_letters h⟩
  | _ => cases h

theorem isInert_separator (h : t.isSeparator) : ∀ c ∈ t.chars, IsInert c := by
  unfold Token.isSeparator at h
  split at h
  · exact List.forall_mem_singleton.2 (by decide)
  · exact List.forall_mem_singleton.2 (by decide)
  · exact List.forall_mem_singleton.2 (by decide)
  · cases h

theorem hashChars_of_isHexDigit {s : List Char} (h : ∀ c ∈ s, Text.isHexDigit c) :
    s.flatMap Printer.hashChar = s := by
  have hchar : ∀ c ∈ s, Printer.hashChar c = [c] := fun c hc => by
    simp [Printer.hashChar, isNameChar_of_isHexDigit (h c hc)]
  rw [List.flatMap_congr hchar]
  exact List.flatMap_singleton' s

namespace IsSimple

theorem isInert (h : IsSimple ts) : ∀ t ∈ ts, ∀ c ∈ t.chars, IsInert c := by
  cases h with
  | operand h => exact List.forall_mem_singleton.2 (isInert_operand h)
  | word h =>
    refine List.forall_mem_singleton.2 ?_
    rw [Token.chars, name_of_isLetters h]
    exact isInert_letters h
  | @hash hex _ hne h =>
    have hhex := List.all_eq_true.1 h
    refine List.forall_mem_singleton.2 ?_
    rw [Token.chars, hashChars_of_isHexDigit hhex]
    exact List.forall_mem_cons.2 ⟨by decide, fun c hc =>
      .of_isNameChar (isNameChar_of_isHexDigit (hhex c hc))⟩
  | function h hargs =>
    refine List.forall_mem_cons.2 ⟨?_, List.forall_mem_append.2 ⟨fun t ht => ?_, ?_⟩⟩
    · rw [Token.chars, name_of_isLetters h]
      exact List.forall_mem_append.2
        ⟨isInert_letters h, List.forall_mem_singleton.2 (by decide)⟩
    · rcases Bool.or_eq_true_iff.1 (hargs t ht) with ht | ht
      · exact isInert_operand ht
      · exact isInert_separator ht
    · exact List.forall_mem_singleton.2 (List.forall_mem_singleton.2 (by decide))

end IsSimple

/-- Characters that a component may start with. -/
def isLeading (c : Char) : Bool := c.isAlpha || c.isDigit || c == '-' || c == '#'

theorem not_isBlank_of_isLeading (h : isLeading c) : Text.isBlank c = false ∧ c ≠ '/' := by
  have hslash : c ≠ '/' := by
    rintro rfl
    exact absurd h (by decide)
  refine ⟨?_, hslash⟩
  simp only [isLeading, Bool.or_eq_true, isAlpha_iff_toNat, Char.isDigit_iff_toNat, beq_iff_eq,
    ← Char.toNat_inj] at h
  change ((_ ∨ 48 ≤ c.toNat ∧ c.toNat ≤ 57) ∨ c.toNat = 45) ∨ c.toNat = 35 at h
  simp only [Text.isBlank, Bool.or_eq_false_iff, Bool.and_eq_false_iff, decide_eq_false_iff_not,
    beq_eq_false_iff_ne]
  omega

theorem Numeral.exists_text_eq (n : Numeral) :
    ∃ c r, n.text.toList = c :: r ∧ (c.isDigit ∨ c = '-') := by
  obtain ⟨cs, ⟨whole, kept, hne, hwhole, -, rfl⟩, htext⟩ := isDecimal_decimalText n.value
  obtain ⟨c, ds, rfl⟩ := List.exists_cons_of_ne_nil hne
  rcases htext with htext | htext
  · exact ⟨c, _, htext, .inl (hwhole c List.mem_cons_self)⟩
  · exact ⟨'-', _, htext, .inr rfl⟩

theorem Token.exists_chars_eq (h : t.isOperand) : ∃ c r, t.chars = c :: r ∧ isLeading c := by
  have hnumeral : ∀ n : Numeral, ∃ c r, n.text.toList = c :: r ∧ isLeading c := by
    intro n
    obtain ⟨c, r, heq, hc⟩ := n.exists_text_eq
    refine ⟨c, r, heq, ?_⟩
    rcases hc with hc | rfl
    · simp [isLeading, hc]
    · decide
  cases t with
  | number n => exact hnumeral n
  | percentage n =>
    obtain ⟨c, r, heq, hc⟩ := hnumeral n
    exact ⟨c, _, by rw [Token.chars, heq, List.cons_append], hc⟩
  | dimension n unit =>
    obtain ⟨c, r, heq, hc⟩ := hnumeral n
    exact ⟨c, _, by rw [Token.chars, heq, List.cons_append], hc⟩
  | _ => cases h

/-- How the text of a component starts. -/
theorem IsSimple.exists_run_eq (h : IsSimple ts) :
    ∃ c r, Printer.run none false ts = c :: r ∧ isLeading c := by
  have hletters : ∀ {name : String}, isLetters name →
      ∃ c r, name.toList = c :: r ∧ isLeading c := by
    intro name hname
    obtain ⟨c, r, heq, hc, -⟩ := exists_of_isLetters hname
    exact ⟨c, r, heq, by simp [isLeading, hc]⟩
  obtain ⟨t, u, rfl, ht, c, r, hchars, hc⟩ : ∃ t u, ts = t :: u ∧
      (t ≠ .blank ∧ t ≠ .comma ∧ t ≠ .closeParen) ∧ ∃ c r, t.chars = c :: r ∧ isLeading c := by
    cases h with
    | @operand t h =>
      refine ⟨t, [], rfl, ?_, Token.exists_chars_eq h⟩
      refine ⟨?_, ?_, ?_⟩ <;>
      · rintro rfl
        cases h
    | @word name h =>
      refine ⟨_, [], rfl, by simp, ?_⟩
      rw [Token.chars, name_of_isLetters h]
      exact hletters h
    | hash isId hne h => exact ⟨_, [], rfl, by simp, '#', _, rfl, by decide⟩
    | @function name args h hargs =>
      obtain ⟨c, r, heq, hc⟩ := hletters h
      refine ⟨_, _, rfl, by simp, c, r ++ ['('], ?_, hc⟩
      rw [Token.chars, name_of_isLetters h, heq, List.cons_append]
  rw [Printer.run_cons ht.1 ht.2.1 ht.2.2]
  exact ⟨c, _, by rw [Printer.spaced, Bool.false_and, Bool.false_and, hchars]; rfl, hc⟩

/-! ### Components in a text -/

namespace IsSimple

theorem ne_nil (h : IsSimple ts) : ts ≠ [] := by
  cases h <;> simp

theorem not_isAddress (h : IsSimple ts) : ∀ t ∈ ts, t.isAddress = false := by
  have hoperand : ∀ t : Token, t.isOperand || t.isSeparator → t.isAddress = false := by
    intro t h
    cases t <;> first | rfl | cases h
  cases h with
  | operand h => exact List.forall_mem_singleton.2 (hoperand _ (Bool.or_eq_true_iff.2 (.inl h)))
  | word => exact List.forall_mem_singleton.2 rfl
  | hash => exact List.forall_mem_singleton.2 rfl
  | function h hargs =>
    exact List.forall_mem_cons.2 ⟨rfl, List.forall_mem_append.2
      ⟨fun t ht => hoperand t (hargs t ht), List.forall_mem_singleton.2 rfl⟩⟩

/-- A component is not split: the blanks in it stand inside a function. -/
theorem splitOutside (h : IsSimple ts) {rest piece : List Token} {pieces : List (List Token)}
    (hrest : WebStyle.splitOutside Token.opensGroup Token.closesGroup Token.isBlank 0 rest =
      piece :: pieces) :
    WebStyle.splitOutside Token.opensGroup Token.closesGroup Token.isBlank 0 (ts ++ rest) =
      (ts ++ piece) :: pieces := by
  have hoperand : ∀ t : Token, t.isOperand || t.isSeparator →
      t.opensGroup = false ∧ t.closesGroup = false := by
    intro t h
    cases t <;> first | exact ⟨rfl, rfl⟩ | cases h
  have hsingle : ∀ t : Token, t.isBlank = false → t.opensGroup = false → t.closesGroup = false →
      WebStyle.splitOutside Token.opensGroup Token.closesGroup Token.isBlank 0 (t :: rest) =
        (t :: piece) :: pieces := by
    intro t hblank hopen hclose
    exact splitOutside_cons hblank (by simpa [hopen, hclose] using hrest)
  cases h with
  | @operand t h =>
    obtain ⟨hopen, hclose⟩ := hoperand t (Bool.or_eq_true_iff.2 (.inl h))
    refine hsingle t ?_ hopen hclose
    cases t <;> first | rfl | cases h
  | word => exact hsingle _ rfl rfl rfl
  | hash => exact hsingle _ rfl rfl rfl
  | @function name args h hargs =>
    have hclose : WebStyle.splitOutside Token.opensGroup Token.closesGroup Token.isBlank 1
        (.closeParen :: rest) = (.closeParen :: piece) :: pieces :=
      splitOutside_cons rfl hrest
    have hinside := splitOutside_append_inside (fun t ht => hoperand t (hargs t ht)) hclose
    simpa using splitOutside_cons rfl hinside

end IsSimple

section

variable (hsimple : IsSimple (trimBlanks (tokenize text)))
  (hstable : tokensText (tokenize text) = text)
include hsimple hstable

theorem toList_of_isSimple :
    text.toList = Printer.trimEnd (Printer.run none false (trimBlanks (tokenize text))) := by
  conv_lhs => rw [← hstable, ← tokensText_trimBlanks hsimple.ne_nil]
  exact String.toList_ofList

theorem isInert_of_isSimple : ∀ c ∈ text.toList, IsInert c := by
  intro c hc
  rw [toList_of_isSimple hsimple hstable] at hc
  rcases Printer.eq_or_mem_chars_of_mem_run ((List.rdropWhile_prefix _ _).subset hc) with
    rfl | ⟨t, ht, hc⟩
  · decide
  · exact hsimple.isInert t ht c hc

theorem exists_toList_of_isSimple :
    ∃ c r, text.toList = c :: r ∧ Text.isBlank c = false ∧ c ≠ '/' := by
  obtain ⟨c, r, hrun, hc⟩ := hsimple.exists_run_eq
  obtain ⟨hblank, hslash⟩ := not_isBlank_of_isLeading hc
  refine ⟨c, Printer.trimEnd r, ?_, hblank, hslash⟩
  rw [toList_of_isSimple hsimple hstable, hrun, Printer.trimEnd_cons_of_not_isBlank hblank]

theorem not_isBlank_getLast?_of_isSimple : ∀ c ∈ text.toList.getLast?, Text.isBlank c = false := by
  intro c hc
  rw [toList_of_isSimple hsimple hstable] at hc
  obtain ⟨hne, rfl⟩ := List.mem_getLast?_eq_getLast hc
  exact Bool.eq_false_iff.2 (List.rdropWhile_last_not _ _ hne)

/-- Nothing but the component is read of its canonical text. -/
theorem tokenize_of_isSimple : trimBlanks (tokenize text) = tokenize text := by
  have hinert := isInert_of_isSimple hsimple hstable
  have hlast := not_isBlank_getLast?_of_isSimple hsimple hstable
  obtain ⟨c, r, heq, hblank, hslash⟩ := exists_toList_of_isSimple hsimple hstable
  have hsolid := not_isBlank_getLast?_tokens hinert fun c hc => Text.not_isAsciiBlank (hlast c hc)
  have htokens : tokenize text = (readToken c r).1 :: tokens (readToken c r).2 := by
    rw [tokenize_of_isInert hinert, heq]
    exact tokens_cons (Text.not_isAsciiBlank hblank) hslash rfl
  have hne : tokenize text ≠ [] := by simp [htokens]
  refine Tight.trimBlanks ⟨⟨_, _, htokens, ?_⟩, _, _, (List.dropLast_concat_getLast hne).symm, ?_⟩
  · have hne := readToken_ne_blank c r
    cases ht : (readToken c r).1 <;> simp_all [Token.isBlank]
  · refine hsolid _ ?_
    rw [← tokenize_of_isInert hinert]
    exact List.getLast?_eq_some_getLast hne

theorem isComponent_of_isSimple : IsComponent text where
  inert := isInert_of_isSimple hsimple hstable
  head := exists_toList_of_isSimple hsimple hstable
  last := not_isBlank_getLast?_of_isSimple hsimple hstable
  address := tokenize_of_isSimple hsimple hstable ▸ hsimple.not_isAddress
  whole hrest := by
    have hwhole := hsimple.splitOutside hrest
    rwa [tokenize_of_isSimple hsimple hstable] at hwhole

end

/-! ### Components in lower case -/

theorem startsName_of_isLetters (h : isLetters text) : startsName text.toList := by
  obtain ⟨c, r, heq, hc, -⟩ := exists_of_isLetters h
  rw [heq]
  exact startsName_cons (isNameStart_of_isAlpha hc)

theorem readName_of_isLetters (h : isLetters text) : readName text.toList = (text.toList, []) := by
  have hname : ∀ c ∈ text.toList, isNameChar c := by
    intro c hc
    have halpha := List.all_eq_true.1 (Bool.and_eq_true_iff.1 h).2 c hc
    simp [isNameChar, isNameStart_of_isAlpha halpha]
  have hread := readName_of_all hname (r := []) (by rw [readName])
  rwa [List.append_nil] at hread

theorem tokenize_of_isLetters (h : isLetters text) : tokenize text = [.ident text] := by
  have hends : EndsIdent [] := by
    rintro d ⟨⟩
  rw [tokenize_of_isInert (isInert_letters h),
    tokens_of_readName (startsName_of_isLetters h) (readName_of_isLetters h) hends,
    String.ofList_toList, tokens_nil]

theorem tokensText_single (hblank : t ≠ .blank) (hcomma : t ≠ .comma) (hparen : t ≠ .closeParen) :
    tokensText [t] = String.ofList (Printer.trimEnd t.chars) := by
  change String.ofList (Printer.trimEnd _) = _
  rw [Printer.run_cons hblank hcomma hparen, Printer.run, List.append_nil]
  rfl

/-- A text that ends in a letter has no blanks at its end. -/
theorem trimEnd_append_letters (cs : List Char) (h : isLetters text) :
    Printer.trimEnd (cs ++ text.toList) = cs ++ text.toList := by
  refine List.rdropWhile_eq_self_iff.2 fun hne => ?_
  have hne' : text.toList ≠ [] := toList_ne_nil (bne_iff_ne.1 (Bool.and_eq_true_iff.1 h).1)
  rw [List.getLast_append_of_ne_nil hne hne']
  have halpha := List.all_eq_true.1 (Bool.and_eq_true_iff.1 h).2 _ (List.getLast_mem hne')
  exact Bool.eq_false_iff.1 (not_isBlank_of_isLeading (by simp [isLeading, halpha])).1

theorem tokensText_of_isLetters (h : isLetters text) : tokensText [.ident text] = text := by
  have htrim := trimEnd_append_letters [] h
  rw [tokensText_single (by simp) (by simp) (by simp), Token.chars, name_of_isLetters h]
  exact (congrArg String.ofList htrim).trans String.ofList_toList

theorem tokensText_dimension (n : Numeral) (h : isLetters text) :
    tokensText [.dimension n text] = n.text ++ text := by
  rw [tokensText_single (by simp) (by simp) (by simp), Token.chars, trimEnd_append_letters _ h]
  simp

theorem endsNumber_of_isLetters (h : isLetters text) : Numeral.EndsNumber text.toList := by
  obtain ⟨c, r, heq, hc, hr⟩ := exists_of_isLetters h
  have hdigit : ∀ {d : Char}, d.isAlpha → d.isDigit = false := fun hd =>
    Bool.eq_false_iff.2 (not_isDigit_of_isNameStart (isNameStart_of_isAlpha hd))
  have hne : ∀ {d e : Char}, d.isAlpha → e.isAlpha = false → d ≠ e := by
    rintro d e hd he rfl
    exact Bool.false_ne_true (he.symm.trans hd)
  rw [heq]
  refine ⟨?_, ?_, ?_⟩
  · rintro d ⟨⟩
    exact hdigit hc
  · simp [Numeral.readFraction?, hne hc (show Char.isAlpha '.' = false by decide)]
  · have hsign : Numeral.readSign r = (none, r) := by
      cases r with
      | nil => rfl
      | cons d r =>
        have hd := hr d List.mem_cons_self
        simp [Numeral.readSign, hne hd (show Char.isAlpha '+' = false by decide),
          hne hd (show Char.isAlpha '-' = false by decide)]
    have hdigits : Numeral.readDigits ([] ++ r) = ([], r) :=
      Numeral.readDigits_of_forall (by simp) fun d hd => hdigit (hr d (List.mem_of_mem_head? hd))
    rw [List.nil_append] at hdigits
    simp [Numeral.readExponent?, hsign, hdigits]

/-- A number is read with one unit as it is with another. -/
theorem exists_tokenize_eq (n : Numeral) : ∃ n' : Numeral, ∀ unit, isLetters unit →
    tokenize (n.text ++ unit) = [.dimension n' unit] := by
  have hdecimal : IsDecimal n.text := isDecimal_decimalText n.value
  obtain ⟨n', hread⟩ := hdecimal.exists_read
  refine ⟨n', fun unit hunit => ?_⟩
  obtain ⟨hstarts, hread⟩ := hread unit.toList (endsNumber_of_isLetters hunit)
  have hnumeric : readNumeric (n.text.toList ++ unit.toList) = (.dimension n' unit, []) := by
    simp [readNumeric, hread, startsName_of_isLetters hunit, readName_of_isLetters hunit]
  have hinert : ∀ d ∈ (n.text ++ unit).toList, IsInert d := by
    rw [String.toList_append]
    exact List.forall_mem_append.2 ⟨isInert_numeral, isInert_letters hunit⟩
  rw [tokenize_of_isInert hinert, String.toList_append, tokens_of_starts hstarts hnumeric,
    tokens_nil]

theorem lower_append (s s' : String) : Text.lower (s ++ s') = Text.lower s ++ Text.lower s' := by
  simp [Text.lower]

theorem lower_eq_self (h : ∀ c ∈ text.toList, c.toLower = c) : Text.lower text = text := by
  rw [Text.lower, List.map_congr_left h, List.map_id', String.ofList_toList]

theorem toLower_numeral {n : Numeral} (hc : c ∈ n.text.toList) : c.toLower = c := by
  rcases Numeral.cases_of_mem_text hc with rfl | rfl | hdigit
  · decide
  · decide
  · exact toLower_of_isDigit hdigit

/-- There are no letters in what is printed of a number without a unit. -/
theorem lower_of_tokensText (h : tokensText [t] = text) (hne : t ≠ .blank ∧ t ≠ .comma ∧
    t ≠ .closeParen) (ht : ∀ c ∈ t.chars, c.toLower = c) : Text.lower text = text := by
  refine lower_eq_self fun c hc => ht c ?_
  rw [← h, tokensText_single hne.1 hne.2.1 hne.2.2, String.toList_ofList] at hc
  exact (List.rdropWhile_prefix _ _).subset hc

/-- Lowering the letters of a width or of a style leaves it what it is, in canonical text. -/
theorem Shorthand.Aspect.ofString_lower {aspect : Shorthand.Aspect}
    (haspect : aspect = .width ∨ aspect = .style) (h : aspect.takes text)
    (hstable : tokensText (tokenize text) = text) :
    tokensText (tokenize (Text.lower text)) = Text.lower text ∧
      Component.ofString (Text.lower text) = Component.ofString text := by
  have hsimple := isSimple_of_takes h
  have hread := tokenize_of_isSimple hsimple hstable
  have hof : Component.ofString text = Component.ofTokens (tokenize text) :=
    congrArg Component.ofTokens hread
  have hfalse : ∀ {x : String}, Component.ofString text ≠ .other x := by
    intro x hother
    rcases haspect with rfl | rfl <;> simp [takes, hother] at h
  have hcolor : ∀ {c : Color}, Component.ofString text ≠ .color c := by
    intro c hc
    rcases haspect with rfl | rfl <;> simp [takes, hc] at h
  rw [hread] at hsimple
  generalize hts : tokenize text = ts at hsimple hstable hof
  cases hsimple with
  | @operand t ht =>
    cases t with
    | number n =>
      have hlower := lower_of_tokensText hstable (by simp) fun c hc => toLower_numeral hc
      rw [hlower, hts]
      exact ⟨hstable, rfl⟩
    | percentage n =>
      have hlower := lower_of_tokensText hstable (by simp) <|
        List.forall_mem_append.2
          ⟨fun c hc => toLower_numeral hc, List.forall_mem_singleton.2 (by decide)⟩
      rw [hlower, hts]
      exact ⟨hstable, rfl⟩
    | dimension n unit =>
      have hunit : isLetters unit := ht
      have hlower : isLetters (Text.lower unit) := (isLetters_lower unit).trans hunit
      obtain ⟨n', hread⟩ := exists_tokenize_eq n
      rw [tokensText_dimension n hunit] at hstable
      rw [← hstable, hread unit hunit] at hts
      obtain rfl : n' = n := by simpa using hts
      have htext : Text.lower text = n'.text ++ Text.lower unit := by
        rw [← hstable, lower_append, lower_eq_self fun c hc => toLower_numeral hc]
      have htrim : trimBlanks [.dimension n' (Text.lower unit)] =
          [.dimension n' (Text.lower unit)] := rfl
      rw [htext, Component.ofString, hread _ hlower, tokensText_dimension n' hlower, htrim]
      refine ⟨rfl, ?_⟩
      simp only [Component.ofTokens, LengthUnit.ofName?, Text.lower_lower] at hof ⊢
      split at hof
      · exact hof.symm
      · exact absurd hof hfalse
    | _ => cases ht
  | @word name hname =>
    rw [tokensText_of_isLetters hname] at hstable
    subst hstable
    have hlower := (isLetters_lower name).trans hname
    have htrim : ∀ s : String, trimBlanks [.ident s] = [.ident s] := fun s => rfl
    rw [tokenize_of_isLetters hlower, tokensText_of_isLetters hlower, hof]
    refine ⟨rfl, ?_⟩
    rw [Component.ofString, tokenize_of_isLetters hlower, htrim]
    simp [Component.ofTokens, Color.ofTokens?, Color.ofName?]
  | hash isId hne hhex =>
    simp only [Component.ofTokens] at hof
    split at hof
    · exact absurd hof hcolor
    · exact absurd hof hfalse
  | function hname hargs =>
    simp only [Component.ofTokens] at hof
    split at hof
    · exact absurd hof hcolor
    · exact absurd hof hfalse

theorem lookup_of_notMem_names {name : String} (h : name ∉ Color.named.map Prod.fst) :
    Color.named.lookup name = none := by
  refine List.lookup_eq_none_iff.2 fun p hp => ?_
  have hne : name ≠ p.1 := fun heq => h (heq ▸ List.mem_map_of_mem hp)
  simpa using hne

/-- A word that is no name of a color is a keyword, and so is `currentcolor`. -/
theorem Component.ofString_of_isLetters (h : isLetters text)
    (hcolor : Text.lower text ∉ Color.named.map Prod.fst ∨ Text.lower text = "currentcolor") :
    Component.ofString text = .keyword (Text.lower text) := by
  have htrim : trimBlanks [.ident text] = [.ident text] := rfl
  rw [ofString, tokenize_of_isLetters h, htrim]
  simp only [ofTokens, Color.ofTokens?, Color.ofName?]
  rcases hcolor with hcolor | hcolor
  · rw [lookup_of_notMem_names hcolor]
  · split
    · rw [if_pos (beq_iff_eq.2 hcolor)]
    · rfl

/-- The keywords of `isWideKeyword`. -/
def wideKeywords : List String := ["inherit", "initial", "unset", "revert"]

namespace Shorthand.Aspect

variable {aspect : Aspect}

/-- The keywords that every property takes are no values of an aspect. -/
theorem not_isWideKeyword (h : aspect.takes text) : isWideKeyword text = false := by
  refine Bool.eq_false_iff.2 fun hwide => ?_
  have hwide : Text.lower text ∈ wideKeywords := List.contains_iff_mem.1 hwide
  have hletters : isLetters text := by
    rw [← isLetters_lower]
    exact List.all_eq_true.1 (by decide : wideKeywords.all isLetters) _ hwide
  have hcolors : ∀ word ∈ wideKeywords, word ∉ Color.named.map Prod.fst := by decide
  have hof := Component.ofString_of_isLetters hletters (.inl (hcolors _ hwide))
  have hall : ∀ a : Aspect, ∀ word ∈ wideKeywords, word ∉ a.keywords := by
    intro a
    cases a <;> decide
  exact hall aspect _ hwide ((takes_keyword hof).1 h)

/-- The keywords of an aspect are read back as what they are. -/
theorem takes_of_mem_keywords {name : String} (h : name ∈ aspect.keywords) :
    tokensText (tokenize name) = name ∧ aspect.takes name ∧ Text.lower name = name := by
  have hall : ∀ a : Aspect, ∀ name ∈ a.keywords, isLetters name ∧ Text.lower name = name ∧
      (name ∉ Color.named.map Prod.fst ∨ name = "currentcolor") := by
    intro a
    cases a <;> decide
  obtain ⟨hletters, hlower, hcolor⟩ := hall aspect name h
  have hof := Component.ofString_of_isLetters hletters (by rwa [hlower])
  rw [hlower] at hof
  refine ⟨?_, (takes_keyword hof).2 h, hlower⟩
  rw [tokenize_of_isLetters hletters, tokensText_of_isLetters hletters]

end Shorthand.Aspect

end WebStyle
