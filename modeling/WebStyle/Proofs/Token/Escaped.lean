import Mathlib.Data.List.Forall2
import WebStyle.Proofs.Token.Lexing
/-!
Escaped names and strings inside longer texts. They are read as one token each, and what follows them
is read as if they were not there; different ones are written differently.
-/
set_option autoImplicit false

namespace WebStyle

open Lexer

variable {c d : Char} {r s t x y : List Char}

/-! ### What a character is written as -/

/-- Whether a text is what a character may be written as: itself, with a backslash before it, or as
its code point. -/
inductive IsCodeOf (c : Char) : List Char → Prop where
  | plain (h : c ≠ '\\') : IsCodeOf c [c]
  | quoted (h : Text.isHexDigit c = false) : IsCodeOf c ['\\', c]
  | point : IsCodeOf c (Printer.hexEscape c)

theorem isCodeOf_of_isNameChar (h : isNameChar c) : IsCodeOf c [c] := by
  refine .plain ?_
  rintro rfl
  exact absurd h (by decide)

theorem isCodeOf_nameChar (c : Char) : IsCodeOf c (Printer.nameChar c) := by
  simp only [Printer.nameChar]
  split
  · exact .point
  · split
    · exact isCodeOf_of_isNameChar ‹_›
    · rename_i hname
      exact .quoted (Bool.eq_false_iff.2 fun hhex => hname (isNameChar_of_isHexDigit hhex))

theorem isCodeOf_leadingChar (c : Char) : IsCodeOf c (Printer.leadingChar c) := by
  simp only [Printer.leadingChar]
  split
  · exact .point
  · exact isCodeOf_nameChar c

theorem isCodeOf_stringChar (c : Char) : IsCodeOf c (Printer.stringChar c) := by
  simp only [Printer.stringChar]
  split
  · rename_i hc
    rcases (by simpa using hc : c = '"' ∨ c = '\\') with rfl | rfl <;> exact .quoted (by decide)
  · rename_i hc
    split
    · exact .point
    · exact .plain (by simp_all)

theorem hexDigits_injective {n k : Nat} (h : Text.hexDigits n = Text.hexDigits k) : n = k := by
  rw [← Text.foldl_hexDigits n, h, Text.foldl_hexDigits]

/-- The digits of a code point end at the blank after them. -/
theorem hexDigits_append_blank {n k : Nat}
    (h : Text.hexDigits n ++ ' ' :: x = Text.hexDigits k ++ ' ' :: y) : n = k ∧ x = y := by
  have hdigits : ∀ (n : Nat) (x : List Char),
      (Text.hexDigits n ++ ' ' :: x).takeWhile Text.isHexDigit = Text.hexDigits n := by
    intro n x
    rw [List.takeWhile_append_of_pos fun c hc => Text.isHexDigit_of_mem_hexDigits hc]
    simp [Text.isHexDigit, Char.isDigit]
  have heq : Text.hexDigits n = Text.hexDigits k := by
    rw [← hdigits n x, h, hdigits]
  rw [heq] at h
  exact ⟨hexDigits_injective heq, (List.cons.inj (List.append_cancel_left h)).2⟩

/-- A code point does not start with a character that may stand after a backslash. -/
theorem hexEscape_append_ne (hd : Text.isHexDigit d = false) :
    Printer.hexEscape c ++ x ≠ '\\' :: d :: y := by
  cases hdigits : Text.hexDigits c.toNat with
  | nil => exact absurd hdigits Nat.toDigits_ne_nil
  | cons e es =>
    have he : Text.isHexDigit e := Text.isHexDigit_of_mem_hexDigits (hdigits ▸ List.mem_cons_self)
    intro h
    rw [Printer.hexEscape, hdigits] at h
    obtain ⟨rfl, -⟩ := List.cons.inj (List.cons.inj h).2
    simp [hd] at he

/-- No text that a character is written as starts that of another one. -/
theorem IsCodeOf.append_inj {cs ds : List Char} (h : IsCodeOf c cs) (hd : IsCodeOf d ds)
    (heq : cs ++ x = ds ++ y) : c = d ∧ x = y := by
  cases h with
  | plain hc =>
    cases hd with
    | plain => exact List.cons.inj heq
    | quoted => exact absurd (List.cons.inj heq).1 hc
    | point => exact absurd (List.cons.inj heq).1 hc
  | quoted hc =>
    cases hd with
    | plain hd => exact absurd (List.cons.inj heq).1.symm hd
    | quoted => exact List.cons.inj (List.cons.inj heq).2
    | point => exact absurd heq.symm (hexEscape_append_ne hc)
  | point =>
    cases hd with
    | plain hd => exact absurd (List.cons.inj heq).1.symm hd
    | quoted hd => exact absurd heq (hexEscape_append_ne hd)
    | point =>
      have hpoints : Text.hexDigits c.toNat ++ ' ' :: x = Text.hexDigits d.toNat ++ ' ' :: y := by
        simpa [Printer.hexEscape] using heq
      obtain ⟨hn, rfl⟩ := hexDigits_append_blank hpoints
      exact ⟨Char.toNat_inj.1 hn, rfl⟩

/-- Whether a text is what a run of characters may be written as, one after the other. -/
def IsCodingOf (s cs : List Char) : Prop :=
  ∃ codes, List.Forall₂ IsCodeOf s codes ∧ cs = codes.flatten

theorem IsCodingOf.cons {cs ds : List Char} (hc : IsCodeOf c cs) (h : IsCodingOf s ds) :
    IsCodingOf (c :: s) (cs ++ ds) := by
  obtain ⟨codes, hcodes, rfl⟩ := h
  exact ⟨cs :: codes, .cons hc hcodes, rfl⟩

theorem isCodingOf_flatMap {f : Char → List Char} (hf : ∀ c, IsCodeOf c (f c)) (s : List Char) :
    IsCodingOf s (s.flatMap f) := by
  refine ⟨s.map f, ?_, List.flatMap_def⟩
  exact List.forall₂_map_right_iff.2 (List.forall₂_same.2 fun c _ => hf c)

theorem IsCodeOf.ne_nil {cs : List Char} (h : IsCodeOf c cs) : cs ≠ [] := by
  cases h <;> simp [Printer.hexEscape]

/-- A text that characters are written as tells them. -/
theorem IsCodingOf.unique {cs : List Char} (h : IsCodingOf s cs) (ht : IsCodingOf t cs) : s = t := by
  obtain ⟨codes, hcodes, rfl⟩ := h
  obtain ⟨codes', hcodes', heq⟩ := ht
  induction hcodes generalizing t codes' with
  | nil =>
    cases hcodes' with
    | nil => rfl
    | cons hd => simp [hd.ne_nil] at heq
  | cons hc _ ih =>
    cases hcodes' with
    | nil => simp [hc.ne_nil] at heq
    | cons hd htail =>
      obtain ⟨rfl, hrest⟩ := hc.append_inj hd heq
      rw [ih _ htail hrest]

theorem isCodingOf_name (s : List Char) : IsCodingOf s (Printer.name s) := by
  have hnames := isCodingOf_flatMap isCodeOf_nameChar
  unfold Printer.name
  split
  · exact .cons (.quoted (by decide)) (hnames [])
  · rename_i c l
    have hhyphen : IsCodeOf '-' ['-'] := .plain (by decide)
    have hcoding := ((hnames l).cons (isCodeOf_leadingChar c)).cons hhyphen
    simpa only [List.cons_append, List.nil_append] using hcoding
  · rename_i c l _ _
    exact .cons (isCodeOf_leadingChar c) (hnames l)
  · exact hnames []

theorem identifierText_injective : Function.Injective identifierText := by
  intro s t h
  have hname : Printer.name s.toList = Printer.name t.toList := String.ofList_injective h
  exact String.toList_inj.1 ((isCodingOf_name s.toList).unique (hname ▸ isCodingOf_name t.toList))

theorem stringText_injective : Function.Injective stringText := by
  intro s t h
  have hstring : Printer.string s.toList = Printer.string t.toList := String.ofList_injective h
  have hchars : s.toList.flatMap Printer.stringChar = t.toList.flatMap Printer.stringChar := by
    simpa [Printer.string] using hstring
  have hcoding := isCodingOf_flatMap isCodeOf_stringChar
  exact String.toList_inj.1 ((hcoding s.toList).unique (hchars ▸ hcoding t.toList))

/-! ### Inside longer texts -/

theorem normalize_append_of_isNormal (h : ∀ c ∈ s, IsNormal c) (r : List Char) :
    normalize (s ++ r) = s ++ normalize r := by
  induction s with
  | nil => rfl
  | cons c s ih =>
    obtain ⟨hr, hf, hz⟩ := h c List.mem_cons_self
    have ih := ih fun d hd => h d (List.mem_cons_of_mem c hd)
    rw [List.cons_append, Lexer.normalize, ih, List.cons_append]
    · exact fun _ heq => absurd heq hr
    · exact hr
    · exact hf
    · exact hz

/-- Line ends become others, and all else that may follow an identifier stays. -/
theorem EndsIdent.normalize (h : EndsIdent r) (hnul : r.head? ≠ some '\x00') :
    EndsIdent (normalize r) := by
  have hline : ∀ l, EndsIdent ('\n' :: l) := by
    rintro l c ⟨⟩
    decide
  fun_cases Lexer.normalize r with
  | case1 => exact hline _
  | case2 => exact hline _
  | case3 => exact hline _
  | case4 => simp at hnul
  | case5 => exact h
  | case6 => exact h

theorem tokenize_identifierText_append {s r : String} (hs : '\x00' ∉ s.toList) (hne : s ≠ "")
    (hr : EndsIdent r.toList) (hnul : r.toList.head? ≠ some '\x00') :
    tokenize (identifierText s ++ r) = .ident s :: tokenize r := by
  have hne : s.toList ≠ [] := fun h => hne (String.toList_eq_nil_iff.1 h)
  rw [tokenize, identifierText, String.toList_append, String.toList_ofList,
    normalize_append_of_isNormal fun c hc => isNormal_name hc,
    tokens_ident hs hne (hr.normalize hnul), String.ofList_toList]
  rfl

theorem tokenize_stringText_append {s : String} (hs : '\x00' ∉ s.toList) (r : String) :
    tokenize (stringText s ++ r) = .string s :: tokenize r := by
  rw [tokenize, stringText, String.toList_append, String.toList_ofList,
    normalize_append_of_isNormal fun c hc => isNormal_string hc, tokens_string hs,
    String.ofList_toList]
  rfl

/-- An identifier and a string are read as one token each where they stand before other text, which
is read as on its own, and different ones are written differently. After an identifier the text may
not go on with the name, open a parenthesis, or close a comment in markup. -/
theorem tokenize_escaped_append :
    (∀ s r : String, s ≠ "" → '\x00' ∉ s.toList → EndsIdent r.toList →
      r.toList.head? ≠ some '\x00' →
        tokenize (identifierText s ++ r) = .ident s :: tokenize r) ∧
    (∀ s r : String, '\x00' ∉ s.toList → tokenize (stringText s ++ r) = .string s :: tokenize r) ∧
    Function.Injective identifierText ∧ Function.Injective stringText :=
  ⟨fun _ _ hne hs hr hnul => tokenize_identifierText_append hs hne hr hnul,
    fun _ r hs => tokenize_stringText_append hs r, identifierText_injective, stringText_injective⟩

/-- Two hyphens and a digit after one hyphen, a comment and a line end after them; and a string that
holds a quote, the end of a comment in markup and a line end. -/
theorem tokenize_escaped_append_hyphens :
    (("--" ≠ "" ∧ '\x00' ∉ "--".toList ∧ EndsIdent "/**/-->".toList ∧
        "/**/-->".toList.head? ≠ some '\x00') ∧
      tokenize (identifierText "--" ++ "/**/-->") = .ident "--" :: tokenize "/**/-->") ∧
    (("-1" ≠ "" ∧ '\x00' ∉ "-1".toList ∧ EndsIdent "\r\n-".toList ∧
        "\r\n-".toList.head? ≠ some '\x00') ∧
      tokenize (identifierText "-1" ++ "\r\n-") = .ident "-1" :: tokenize "\r\n-") ∧
    ('\x00' ∉ "\"-->\n".toList ∧
      tokenize (stringText "\"-->\n" ++ "a\"") = .string "\"-->\n" :: tokenize "a\"") := by
  have hends : EndsIdent "/**/-->".toList ∧ EndsIdent "\r\n-".toList := by
    constructor <;>
    · rintro c ⟨⟩
      decide
  refine ⟨⟨⟨by decide, by decide, hends.1, by decide⟩, ?_⟩,
    ⟨⟨by decide, by decide, hends.2, by decide⟩, ?_⟩, by decide, ?_⟩
  · exact tokenize_escaped_append.1 _ _ (by decide) (by decide) hends.1 (by decide)
  · exact tokenize_escaped_append.1 _ _ (by decide) (by decide) hends.2 (by decide)
  · exact tokenize_escaped_append.2.1 _ _ (by decide)

end WebStyle
