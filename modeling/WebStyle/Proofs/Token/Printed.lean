import Mathlib.Algebra.Group.Nat.Defs
import WebStyle.Proofs.Text
import WebStyle.Token.Printer
/-!
Printed names and strings are read back as what they were printed from.
-/
set_option autoImplicit false

namespace WebStyle

open Lexer

variable {c d : Char} {r s : List Char}

/-! ### Escapes -/

theorem Text.isHexDigit_digitChar {n : Nat} (h : n < 16) : Text.isHexDigit n.digitChar := by
  revert n
  decide

theorem Text.hexValue_digitChar {n : Nat} (h : n < 16) : Text.hexValue n.digitChar = n := by
  revert n
  decide

theorem Text.isHexDigit_of_mem_hexDigits {n : Nat} (h : c ∈ Text.hexDigits n) :
    Text.isHexDigit c := by
  induction n using Nat.strongRecOn with
  | _ n ih =>
    rw [hexDigits, Nat.toDigits_eq_if (by decide)] at h
    split at h
    · rename_i hn
      obtain rfl := List.mem_singleton.1 h
      exact isHexDigit_digitChar hn
    · rcases List.mem_append.1 h with h | h
      · exact ih (n / 16) (by omega) h
      · obtain rfl := List.mem_singleton.1 h
        exact isHexDigit_digitChar (Nat.mod_lt n (by decide))

theorem Text.foldl_hexDigits (n : Nat) :
    (Text.hexDigits n).foldl (fun n d => 16 * n + Text.hexValue d) 0 = n := by
  induction n using Nat.strongRecOn with
  | _ n ih =>
    rw [hexDigits, Nat.toDigits_eq_if (by decide)]
    split
    · rename_i hn
      simp [hexValue_digitChar hn]
    · rw [List.foldl_append, ← hexDigits, ih (n / 16) (by omega), List.foldl_cons, List.foldl_nil,
        hexValue_digitChar (Nat.mod_lt n (by decide))]
      omega

/-- A code point of up to six digits is read to the blank after it. -/
theorem readEscape_hexDigits {n : Nat} (h : n < 16 ^ 6) :
    readEscape (Text.hexDigits n ++ ' ' :: r) = (charOfCode n, r) := by
  cases hd : Text.hexDigits n with
  | nil => exact absurd hd Nat.toDigits_ne_nil
  | cons c ds =>
    have hhex : ∀ d ∈ c :: ds, Text.isHexDigit d := fun d hmem =>
      Text.isHexDigit_of_mem_hexDigits (hd ▸ hmem)
    have hlen : ds.length ≤ 5 := by
      have := (Nat.length_toDigits_le_iff (by decide) (by decide)).2 h
      rw [show Nat.toDigits 16 n = c :: ds from hd, List.length_cons] at this
      omega
    have hmore : ((ds ++ ' ' :: r).take 5).takeWhile Text.isHexDigit = ds := by
      rw [List.take_append, List.take_of_length_le hlen,
        List.takeWhile_append_of_pos fun d hmem => hhex d (List.mem_cons_of_mem c hmem)]
      cases 5 - ds.length <;> simp [Text.isHexDigit, Char.isDigit]
    have hvalue := Text.foldl_hexDigits n
    rw [hd] at hvalue
    simp only [List.cons_append, readEscape, hhex c List.mem_cons_self, ↓reduceIte, hmore, hvalue,
      List.drop_left]
    rfl

theorem charOfCode_toNat (h : c ≠ '\x00') : charOfCode c.toNat = c := by
  have hne : c.toNat ≠ 0 := fun heq => h (Char.toNat_inj.1 heq)
  have hvalid : c.toNat.isValidChar := c.valid
  rw [charOfCode, if_neg hne, if_pos hvalid, Char.ofNat_toNat]

theorem toNat_lt_of_isControl (h : Text.isControl c) : c.toNat < 16 ^ 6 := by
  simp only [Text.isControl, Bool.or_eq_true, Bool.and_eq_true, decide_eq_true_eq] at h
  omega

theorem toNat_lt_of_isDigit (h : c.isDigit) : c.toNat < 16 ^ 6 := by
  simp only [Char.isDigit, Bool.and_eq_true, decide_eq_true_eq] at h
  have : c.toNat ≤ 57 := h.2
  omega

/-- Whether a text is an escape that stands for a character, whatever follows. -/
structure IsEscapeOf (text : List Char) (c : Char) : Prop where
  starts : ∀ r, startsEscape (text ++ r)
  read : ∀ r, ∃ t, text ++ r = '\\' :: t ∧ readEscape t = (c, r)

theorem isEscapeOf_hexEscape (h : c ≠ '\x00') (hlt : c.toNat < 16 ^ 6) :
    IsEscapeOf (Printer.hexEscape c) c where
  starts r := by
    cases hd : Text.hexDigits c.toNat with
    | nil => exact absurd hd Nat.toDigits_ne_nil
    | cons d ds =>
      have hhex : Text.isHexDigit d := Text.isHexDigit_of_mem_hexDigits (hd ▸ List.mem_cons_self)
      have hne : d ≠ '\n' := by
        rintro rfl
        simp [Text.isHexDigit, Char.isDigit] at hhex
      simp [Printer.hexEscape, hd, startsEscape, hne]
  read r := by
    refine ⟨Text.hexDigits c.toNat ++ ' ' :: r, by simp [Printer.hexEscape], ?_⟩
    rw [readEscape_hexDigits hlt, charOfCode_toNat h]

theorem isEscapeOf_backslash (hn : c ≠ '\n') (hh : ¬ Text.isHexDigit c) :
    IsEscapeOf ['\\', c] c where
  starts r := by simp [startsEscape, hn]
  read r := ⟨c :: r, rfl, by simp [readEscape, hh]⟩

/-! ### Names -/

theorem isNameChar_backslash : isNameChar '\\' = false := by decide

theorem isNameChar_of_isHexDigit (h : Text.isHexDigit c) : isNameChar c := by
  simp only [Text.isHexDigit, Bool.or_eq_true, Bool.and_eq_true, decide_eq_true_eq] at h
  rcases h with (h | h) | h
  · simp [isNameChar, h]
  · have halpha : c.isAlpha :=
      isAlpha_iff_toNat.2 (.inr ⟨h.1, Nat.le_trans (show c.toNat ≤ 102 from h.2) (by decide)⟩)
    simp [isNameChar, isNameStart, halpha]
  · have halpha : c.isAlpha :=
      isAlpha_iff_toNat.2 (.inl ⟨h.1, Nat.le_trans (show c.toNat ≤ 70 from h.2) (by decide)⟩)
    simp [isNameChar, isNameStart, halpha]

/-- How a character is printed in a name: as it is, or as an escape. -/
theorem nameChar_cases (h : c ≠ '\x00') :
    Printer.nameChar c = [c] ∧ isNameChar c ∨ IsEscapeOf (Printer.nameChar c) c := by
  simp only [Printer.nameChar]
  split
  · rename_i hcontrol
    exact .inr (isEscapeOf_hexEscape h (toNat_lt_of_isControl hcontrol))
  · rename_i hcontrol
    split
    · rename_i hname
      exact .inl ⟨rfl, hname⟩
    · rename_i hname
      refine .inr (isEscapeOf_backslash ?_ fun hhex => hname (isNameChar_of_isHexDigit hhex))
      rintro rfl
      exact hcontrol (by decide)

theorem leadingChar_cases (h : c ≠ '\x00') :
    Printer.leadingChar c = [c] ∧ isNameChar c ∧ ¬ c.isDigit ∨
      IsEscapeOf (Printer.leadingChar c) c := by
  simp only [Printer.leadingChar]
  split
  · rename_i hdigit
    exact .inr (isEscapeOf_hexEscape h (toNat_lt_of_isDigit hdigit))
  · rename_i hdigit
    exact (nameChar_cases h).imp (fun ⟨heq, hname⟩ => ⟨heq, hname, hdigit⟩) id

theorem readName_cons (h : isNameChar c) :
    readName (c :: r) = (c :: (readName r).1, (readName r).2) := by
  rw [readName]
  simp [h]

theorem IsEscapeOf.readName {text : List Char} (h : IsEscapeOf text c) (r : List Char) :
    readName (text ++ r) = (c :: (readName r).1, (readName r).2) := by
  obtain ⟨t, ht, hread⟩ := h.read r
  have hstarts := h.starts r
  rw [ht] at hstarts ⊢
  rw [Lexer.readName]
  simp [isNameChar_backslash, hstarts, hread]

theorem readName_nameChar (h : c ≠ '\x00') (r : List Char) :
    readName (Printer.nameChar c ++ r) = (c :: (readName r).1, (readName r).2) := by
  rcases nameChar_cases h with ⟨heq, hname⟩ | hescape
  · rw [heq]
    exact readName_cons hname
  · exact hescape.readName r

theorem readName_leadingChar (h : c ≠ '\x00') (r : List Char) :
    readName (Printer.leadingChar c ++ r) = (c :: (readName r).1, (readName r).2) := by
  rcases leadingChar_cases h with ⟨heq, hname, -⟩ | hescape
  · rw [heq]
    exact readName_cons hname
  · exact hescape.readName r

/-- Whether a text cannot go on with a name that stands before it. -/
def EndsName (r : List Char) : Prop := ∀ c ∈ r.head?, isNameChar c = false ∧ c ≠ '\\'

theorem EndsName.readName (h : EndsName r) : readName r = ([], r) := by
  cases r with
  | nil => rw [Lexer.readName]
  | cons c r =>
    obtain ⟨hname, hne⟩ := h c rfl
    have hescape : startsEscape (c :: r) = false := by
      unfold startsEscape
      split
      · simp_all
      · rfl
    rw [Lexer.readName]
    simp [hname, hescape]

theorem readName_flatMap (hs : '\x00' ∉ s) (hr : readName r = ([], r)) :
    readName (s.flatMap Printer.nameChar ++ r) = (s, r) := by
  induction s with
  | nil => exact hr
  | cons c s ih =>
    rw [List.flatMap_cons, List.append_assoc,
      readName_nameChar (fun h => hs (h ▸ List.mem_cons_self)),
      ih fun h => hs (List.mem_cons_of_mem c h)]

theorem readName_printed (hs : '\x00' ∉ s) (hr : readName r = ([], r)) :
    readName (Printer.name s ++ r) = (s, r) := by
  have hne : ∀ {c}, c ∈ s → c ≠ '\x00' := fun hc heq => hs (heq ▸ hc)
  have htail : ∀ {l}, l ⊆ s → '\x00' ∉ l := fun hl h => hs (hl h)
  unfold Printer.name
  split
  · have hescape : IsEscapeOf ['\\', '-'] '-' := isEscapeOf_backslash (by decide) (by decide)
    rw [hescape.readName, hr]
  · rename_i c l
    rw [List.cons_append, List.cons_append, List.append_assoc, readName_cons (by decide),
      readName_leadingChar (hne (by simp)),
      readName_flatMap (htail fun x hx => by simp [hx]) hr]
  · rename_i c l _ _
    rw [List.append_assoc, readName_leadingChar (hne (by simp)),
      readName_flatMap (htail fun x hx => by simp [hx]) hr]
  · exact hr

/-- A text of name characters is read as it is. -/
theorem readName_of_all (hs : ∀ c ∈ s, isNameChar c) (hr : readName r = ([], r)) :
    readName (s ++ r) = (s, r) := by
  induction s with
  | nil => exact hr
  | cons c s ih =>
    rw [List.cons_append, readName_cons (hs c List.mem_cons_self),
      ih fun d hd => hs d (List.mem_cons_of_mem c hd)]

/-! ### Where names start -/

theorem startsName_of_escape {text : List Char} (h : IsEscapeOf text c) :
    startsName (text ++ r) ∧ startsName ('-' :: text ++ r) := by
  obtain ⟨t, ht, -⟩ := h.read r
  have hstarts := h.starts r
  rw [List.cons_append, ht] at *
  exact ⟨hstarts, hstarts⟩

theorem isNameStart_of_isNameChar (h : isNameChar c) (hd : ¬ c.isDigit) (hm : c ≠ '-') :
    isNameStart c := by
  simp only [isNameChar, Bool.or_eq_true, beq_iff_eq] at h
  exact (h.resolve_right hm).resolve_right hd

theorem startsName_cons (h : isNameStart c) : startsName (c :: r) := by
  unfold startsName
  split
  · rename_i heq
    obtain ⟨rfl, rfl⟩ := List.cons.inj heq
    exact absurd h (by decide)
  · rename_i heq
    obtain ⟨rfl, rfl⟩ := List.cons.inj heq
    exact absurd h (by decide)
  · rename_i heq
    obtain ⟨rfl, rfl⟩ := List.cons.inj heq
    exact h
  · rename_i heq
    exact absurd heq (List.cons_ne_nil c r)

theorem startsName_hyphen (h : isNameChar c) (hd : ¬ c.isDigit) : startsName ('-' :: c :: r) := by
  by_cases hm : c = '-'
  · rw [hm]
    rfl
  · have hstart := isNameStart_of_isNameChar h hd hm
    have hne : c ≠ '\\' := by
      rintro rfl
      exact absurd hstart (by decide)
    simpa only [startsName] using hstart

theorem startsName_printed (hs : '\x00' ∉ s) (hne : s ≠ []) (r : List Char) :
    startsName (Printer.name s ++ r) := by
  have hnul : ∀ {c}, c ∈ s → c ≠ '\x00' := fun hc heq => hs (heq ▸ hc)
  unfold Printer.name
  split
  · rfl
  · rename_i c l
    rw [List.cons_append, List.cons_append, List.append_assoc]
    rcases leadingChar_cases (c := c) (hnul (by simp)) with ⟨heq, hname, hdigit⟩ | hescape
    · rw [heq]
      exact startsName_hyphen hname hdigit
    · exact (startsName_of_escape hescape).2
  · rename_i c l hone htwo
    rw [List.append_assoc]
    rcases leadingChar_cases (c := c) (hnul (by simp)) with ⟨heq, hname, hdigit⟩ | hescape
    · have hm : c ≠ '-' := by
        rintro rfl
        cases l with
        | nil => exact hone rfl rfl
        | cons d l => exact htwo d l rfl rfl
      rw [heq]
      exact startsName_cons (isNameStart_of_isNameChar hname hdigit hm)
    · exact (startsName_of_escape hescape).1
  · exact absurd rfl hne

/-! ### Strings -/

theorem IsEscapeOf.readString {text : List Char} {q : Char} (h : IsEscapeOf text c) (hq : q ≠ '\\')
    (r : List Char) : readString q (text ++ r) =
      ((readString q r).1.map (c :: ·), (readString q r).2) := by
  obtain ⟨t, ht, hread⟩ := h.read r
  have hstarts := h.starts r
  rw [ht] at hstarts ⊢
  cases t with
  | nil => simp [startsEscape] at hstarts
  | cons d t =>
    have hd : d ≠ '\n' := by simpa [startsEscape] using hstarts
    rw [Lexer.readString.eq_def]
    simp [Ne.symm hq, hread]

theorem stringChar_cases (h : c ≠ '\x00') :
    Printer.stringChar c = [c] ∧ c ≠ '"' ∧ c ≠ '\\' ∧ c ≠ '\n' ∨
      IsEscapeOf (Printer.stringChar c) c := by
  simp only [Printer.stringChar]
  split
  · rename_i hc
    refine .inr ?_
    rcases (by simpa using hc : c = '"' ∨ c = '\\') with rfl | rfl <;>
      exact isEscapeOf_backslash (by decide) (by decide)
  · rename_i hc
    split
    · rename_i hcontrol
      exact .inr (isEscapeOf_hexEscape h (toNat_lt_of_isControl hcontrol))
    · rename_i hcontrol
      refine .inl ⟨rfl, by simp_all, by simp_all, ?_⟩
      rintro rfl
      exact hcontrol (by decide)

theorem readString_printed (hs : '\x00' ∉ s) (r : List Char) :
    readString '"' (s.flatMap Printer.stringChar ++ '"' :: r) = (some s, r) := by
  induction s with
  | nil =>
    rw [List.flatMap_nil, List.nil_append, Lexer.readString.eq_def]
    simp
  | cons c s ih =>
    have ih := ih fun h => hs (List.mem_cons_of_mem c h)
    rw [List.flatMap_cons, List.append_assoc]
    rcases stringChar_cases (c := c) (fun h => hs (h ▸ List.mem_cons_self)) with
      ⟨heq, hquote, hslash, hline⟩ | hescape
    · rw [heq, List.cons_append, List.nil_append, Lexer.readString.eq_def]
      simp [hquote, hslash, hline, ih]
    · rw [hescape.readString (by decide), ih]
      rfl

/-! ### Line ends -/

/-- Whether normalizing leaves a character as it is, wherever it stands. -/
def IsNormal (c : Char) : Prop := c ≠ '\r' ∧ c ≠ '\x0C' ∧ c ≠ '\x00'

instance : DecidablePred IsNormal := fun c =>
  inferInstanceAs (Decidable (c ≠ '\r' ∧ c ≠ '\x0C' ∧ c ≠ '\x00'))

theorem normalize_of_isNormal (h : ∀ c ∈ s, IsNormal c) : normalize s = s := by
  induction s with
  | nil => rfl
  | cons c s ih =>
    obtain ⟨hr, hf, hz⟩ := h c List.mem_cons_self
    have ih := ih fun d hd => h d (List.mem_cons_of_mem c hd)
    unfold Lexer.normalize
    split
    all_goals simp_all

theorem normalize_append {c : Char} (hc : c ≠ '\n') (cs r : List Char) :
    Lexer.normalize (cs ++ c :: r) = Lexer.normalize cs ++ Lexer.normalize (c :: r) := by
  fun_induction Lexer.normalize cs with
  | case1 cs ih => simpa [Lexer.normalize] using ih
  | case2 cs hne ih =>
    rw [List.cons_append, Lexer.normalize, ih, List.cons_append]
    intro t ht
    cases cs with
    | nil => exact hc (List.cons.inj ht).1
    | cons d cs => exact hne cs (by rw [(List.cons.inj ht).1])
  | case3 cs ih => simpa [Lexer.normalize] using ih
  | case4 cs ih => simpa [Lexer.normalize] using ih
  | case5 d cs _ hr hf hz ih =>
    rw [List.cons_append, Lexer.normalize, ih, List.cons_append]
    · exact fun _ h => (hr h).elim
    · exact hr
    · exact hf
    · exact hz
  | case6 => rfl

theorem isNormal_of_not_isControl (h : Text.isControl c = false) : IsNormal c := by
  refine ⟨?_, ?_, ?_⟩ <;>
  · rintro rfl
    exact absurd h (by decide)

theorem isNormal_of_isNameChar (h : isNameChar c) : IsNormal c := by
  refine ⟨?_, ?_, ?_⟩ <;>
  · rintro rfl
    exact absurd h (by decide)

theorem isNormal_of_isHexDigit (h : Text.isHexDigit c) : IsNormal c :=
  isNormal_of_isNameChar (isNameChar_of_isHexDigit h)

theorem isNormal_hexEscape (h : d ∈ Printer.hexEscape c) : IsNormal d := by
  simp only [Printer.hexEscape, List.cons_append, List.mem_cons, List.mem_append, List.not_mem_nil,
    or_false] at h
  rcases h with rfl | h | rfl
  · decide
  · exact isNormal_of_isHexDigit (Text.isHexDigit_of_mem_hexDigits h)
  · decide

theorem isNormal_backslash (h : d ∈ ['\\', c]) (hc : Text.isControl c = false) : IsNormal d := by
  rcases List.mem_cons.1 h with rfl | h
  · decide
  · obtain rfl := List.mem_singleton.1 h
    exact isNormal_of_not_isControl hc

theorem isNormal_nameChar (h : d ∈ Printer.nameChar c) : IsNormal d := by
  simp only [Printer.nameChar] at h
  split at h
  · exact isNormal_hexEscape h
  · rename_i hc
    rw [Bool.not_eq_true] at hc
    split at h
    · obtain rfl := List.mem_singleton.1 h
      exact isNormal_of_not_isControl hc
    · exact isNormal_backslash h hc

theorem isNormal_leadingChar (h : d ∈ Printer.leadingChar c) : IsNormal d := by
  simp only [Printer.leadingChar] at h
  split at h
  · exact isNormal_hexEscape h
  · exact isNormal_nameChar h

theorem isNormal_name (h : c ∈ Printer.name s) : IsNormal c := by
  have hnames : ∀ {l : List Char}, c ∈ l.flatMap Printer.nameChar → IsNormal c := by
    intro l hl
    obtain ⟨d, -, hd⟩ := List.mem_flatMap.1 hl
    exact isNormal_nameChar hd
  unfold Printer.name at h
  split at h
  · exact isNormal_backslash h (by decide)
  · rcases List.mem_cons.1 h with rfl | h
    · decide
    · rcases List.mem_append.1 h with h | h
      · exact isNormal_leadingChar h
      · exact hnames h
  · rcases List.mem_append.1 h with h | h
    · exact isNormal_leadingChar h
    · exact hnames h
  · simp at h

theorem isNormal_string (h : c ∈ Printer.string s) : IsNormal c := by
  simp only [Printer.string, List.cons_append, List.mem_cons, List.mem_append, List.mem_flatMap,
    List.not_mem_nil, or_false] at h
  rcases h with rfl | ⟨d, -, h⟩ | rfl
  · decide
  · simp only [Printer.stringChar] at h
    split at h
    · rename_i hd
      refine isNormal_backslash h ?_
      rcases (by simpa using hd : d = '"' ∨ d = '\\') with rfl | rfl <;> decide
    · split at h
      · exact isNormal_hexEscape h
      · rename_i hc
        obtain rfl := List.mem_singleton.1 h
        exact isNormal_of_not_isControl (by simpa using hc)
  · decide

end WebStyle
