import WebStyle.Proofs.Sheet.Recovery
import WebStyle.ObjectModel.Basic
/-!
Imports come first. Rules that are read are in an order in which no import follows another rule, and
none of them stands inside a media rule, whatever is dropped between them.
-/
set_option autoImplicit false

namespace WebStyle

theorem insertIdx_eq_append {α : Type} {l : List α} {i : Nat} (a : α) (h : i ≤ l.length) :
    l.insertIdx i a = l.take i ++ a :: l.drop i := by
  induction i generalizing l with
  | zero => rfl
  | succ i ih =>
    cases l with
    | nil => simp at h
    | cons b l => simp [ih (Nat.le_of_succ_le_succ h)]

/-! ### Marks that come first -/

/-- Whether what is marked comes before all else. -/
def MarkedFirst (marks : List Bool) : Prop := marks.Pairwise fun a b => b = true → a = true

instance (marks : List Bool) : Decidable (MarkedFirst marks) :=
  inferInstanceAs (Decidable (marks.Pairwise fun a b => b = true → a = true))

namespace MarkedFirst

variable {marks : List Bool} {a b : Bool} {i : Nat}

theorem cons (h : MarkedFirst marks) (ha : a = false → ∀ b ∈ marks, b = false) :
    MarkedFirst (a :: marks) := by
  refine List.pairwise_cons.2 ⟨fun b hb htrue => ?_, h⟩
  cases a with
  | true => rfl
  | false => exact absurd (ha rfl b hb) (by simp [htrue])

/-- One more mark may stand behind marks only, and what is not marked before none. -/
theorem insertIdx_iff (h : MarkedFirst marks) (hi : i ≤ marks.length) :
    MarkedFirst (marks.insertIdx i b) ↔
      if b then ∀ a ∈ marks.take i, a = true else ∀ a ∈ marks.drop i, a = false := by
  rw [← List.take_append_drop i marks, MarkedFirst, List.pairwise_append] at h
  obtain ⟨hbefore, hafter, hacross⟩ := h
  rw [insertIdx_eq_append b hi, MarkedFirst, List.pairwise_append, List.pairwise_cons]
  cases b with
  | true =>
    simp only [if_true, List.mem_cons, forall_eq_or_imp]
    refine ⟨fun h a ha => (h.2.2 a ha).1 trivial, fun h => ⟨hbefore, ?_, fun a ha => ?_⟩⟩
    · exact ⟨fun _ _ _ => trivial, hafter⟩
    · exact ⟨fun _ => h a ha, hacross a ha⟩
  | false =>
    simp only [Bool.false_eq_true, if_false, List.mem_cons, forall_eq_or_imp]
    constructor
    · exact fun h a ha => Bool.eq_false_iff.2 fun htrue => by simpa using h.2.1.1 a ha htrue
    · refine fun h => ⟨hbefore, ⟨fun a ha htrue => ?_, hafter⟩, fun a ha => ⟨nofun, hacross a ha⟩⟩
      rw [h a ha] at htrue
      cases htrue

end MarkedFirst

namespace RuleSource

/-- Whether no import stands inside a media rule. -/
inductive WellNested : RuleSource → Prop
  | style (selectors : SelectorList) (declarations : List Declaration) :
    WellNested (.style selectors declarations)
  | media (l : MediaList) {rules : List RuleSource} (h : ∀ x ∈ rules, x.type ≠ .importing)
      (hinner : ∀ x ∈ rules, WellNested x) : WellNested (.media l rules)
  | importing (href : String) (l : MediaList) : WellNested (.importing href l)
  | fontFace (declarations : List Declaration) : WellNested (.fontFace declarations)
  | page (selector : String) (declarations : List Declaration) :
    WellNested (.page selector declarations)

end RuleSource

namespace RuleReader

/-- What holds of rules that are read, where imports are allowed or not. -/
structure InOrder (importsAllowed : Bool) (rules : List RuleSource) : Prop where
  nested : ∀ x ∈ rules, x.WellNested
  first : MarkedFirst (rules.map fun x => x.type == .importing)
  allowed : importsAllowed = false → ∀ x ∈ rules, x.type ≠ .importing

variable {importsAllowed allowed : Bool} {rules : List RuleSource}

theorem InOrder.nil (importsAllowed : Bool) : InOrder importsAllowed [] :=
  ⟨by simp, List.Pairwise.nil, by simp⟩

/-- One rule before others; after one that is no import, no imports are allowed. -/
theorem InOrder.before {rule : Option RuleSource} (h : InOrder allowed rules)
    (hle : importsAllowed = false → allowed = false) (hnested : ∀ x ∈ rule, x.WellNested)
    (himport : ∀ x ∈ rule, x.type = .importing → importsAllowed = true)
    (hother : ∀ x ∈ rule, x.type ≠ .importing → allowed = false) :
    InOrder importsAllowed (rule.toList ++ rules) := by
  cases rule with
  | none => exact ⟨h.nested, h.first, fun hno => h.allowed (hle hno)⟩
  | some x =>
    refine ⟨List.forall_mem_cons.2 ⟨hnested x rfl, h.nested⟩, h.first.cons fun hx b hb => ?_,
      fun hno => List.forall_mem_cons.2 ⟨fun hx => ?_, h.allowed (hle hno)⟩⟩
    · obtain ⟨y, hy, rfl⟩ := List.mem_map.1 hb
      have hno := hother x rfl (by simpa using hx)
      simpa using h.allowed hno y hy
    · rw [himport x rfl hx] at hno
      cases hno

theorem styleRule_eq_some {tokens : List Token} {e : Extent} {x : RuleSource}
    (h : (styleRule tokens e).rule = some x) : ∃ selectors declarations,
      x = .style selectors declarations := by
  unfold styleRule at h
  split at h
  · cases h
  · cases h
  · cases h
  · split at h
    · exact ⟨_, _, (Option.some.inj h).symm⟩
    · cases h

theorem importPrelude?_eq_some {tokens : List Token} {x : RuleSource}
    (h : importPrelude? tokens = some x) : ∃ href l, x = .importing href l := by
  unfold importPrelude? at h
  split at h
  · obtain ⟨-, h⟩ := Option.ite_none_left_eq_some.1 h
    exact ⟨_, _, (Option.some.inj h).symm⟩
  · obtain ⟨-, h⟩ := Option.ite_none_left_eq_some.1 h
    exact ⟨_, _, (Option.some.inj h).symm⟩
  · cases h

theorem importRule_eq_some {tokens : List Token} {e : Extent} {x : RuleSource}
    (h : (importRule tokens importsAllowed e).rule = some x) :
    importsAllowed = true ∧ ∃ href l, x = .importing href l := by
  cases e with
  | block | unclosed => cases h
  | statement prelude _ | unended prelude =>
    simp only [importRule] at h
    split at h
    · cases h
    · rename_i hallowed
      split at h
      · rename_i rule hrule
        cases h
        exact ⟨by simpa using hallowed, importPrelude?_eq_some hrule⟩
      · cases h

theorem blockRule_eq_some {tokens : List Token} {build : (prelude body : List Token) → Reading}
    {e : Extent} {x : RuleSource} (h : (blockRule tokens build e).rule = some x) :
    ∃ prelude body, (build prelude body).rule = some x := by
  cases e with
  | block prelude body rest => exact ⟨_, _, h⟩
  | unclosed | statement | unended => cases h

/-- Which at-rules make which rules. -/
theorem atRule_eq_some {name : String} {tokens : List Token}
    {inner : List RuleSource × List Dropped} {e : Extent} {x : RuleSource}
    (h : (atRule name importsAllowed tokens inner e).rule = some x) :
    importsAllowed = true ∧ (∃ href l, x = .importing href l) ∨
      keepsImports name = false ∧ ((∃ l, name = "media" ∧ x = .media l inner.1) ∨
        (∃ declarations, x = .fontFace declarations) ∨
          ∃ selector declarations, x = .page selector declarations) := by
  unfold atRule at h
  split at h
  · exact .inl (importRule_eq_some h)
  · obtain ⟨prelude, body, h⟩ := blockRule_eq_some h
    exact .inr ⟨by decide, .inl ⟨_, rfl, (Option.some.inj h).symm⟩⟩
  · obtain ⟨prelude, body, h⟩ := blockRule_eq_some h
    unfold fontFaceRule at h
    split at h
    · exact .inr ⟨by decide, .inr (.inl ⟨_, (Option.some.inj h).symm⟩)⟩
    · cases h
  · obtain ⟨prelude, body, h⟩ := blockRule_eq_some h
    exact .inr ⟨by decide, .inr (.inr ⟨_, _, (Option.some.inj h).symm⟩)⟩
  · cases h

theorem wellNested_atRule {name : String} {tokens : List Token}
    {inner : List RuleSource × List Dropped} {e : Extent} {x : RuleSource}
    (hinner : name = "media" → InOrder false inner.1)
    (h : (atRule name importsAllowed tokens inner e).rule = some x) : x.WellNested := by
  rcases atRule_eq_some h with ⟨-, href, l, rfl⟩ |
    ⟨-, ⟨l, hname, rfl⟩ | ⟨declarations, rfl⟩ | ⟨selector, declarations, rfl⟩⟩
  · exact .importing href l
  · exact .media l ((hinner hname).allowed rfl) (hinner hname).nested
  · exact .fontFace declarations
  · exact .page selector declarations

theorem inOrder_readRules (topLevel importsAllowed : Bool) (tokens : List Token) :
    InOrder importsAllowed (readRules topLevel importsAllowed tokens).1 := by
  induction hn : tokens.length using Nat.strong_induction_on
    generalizing tokens topLevel importsAllowed with
  | _ n ih =>
    subst hn
    cases tokens with
    | nil =>
      rw [readRules]
      exact .nil importsAllowed
    | cons t r =>
      have hr := ih r.length (Nat.lt_succ_self _) topLevel importsAllowed r rfl
      by_cases hskip : t.isBlank || (topLevel && (t == .markupOpen || t == .markupClose))
      · rw [readRules_skip hskip]
        exact hr
      · by_cases hstray : t = .closeBrace ∨ t = .semicolon
        · rw [readRules_stray hstray]
          exact hr
        · by_cases hat : ∃ name, t = .atKeyword name
          · obtain ⟨name, rfl⟩ := hat
            have hlt := extent_length_le 0 r
            rw [readRules_atKeyword]
            have hrest := ih (extent 0 r).rest.length (by simp only [List.length_cons]; omega)
              topLevel (importsAllowed && keepsImports (Text.lower name)) _ rfl
            have hinner := ih (extent 0 r).body.length (by simp only [List.length_cons]; omega)
              false false (extent 0 r).body rfl
            refine hrest.before (fun hno => by simp [hno]) (fun x hx => ?_) (fun x hx htype => ?_)
              fun x hx htype => ?_
            · refine wellNested_atRule (fun hname => ?_) hx
              rwa [if_pos (beq_iff_eq.2 hname)]
            · rcases atRule_eq_some hx with ⟨hallowed, -⟩ |
                ⟨-, ⟨l, -, rfl⟩ | ⟨declarations, rfl⟩ | ⟨selector, declarations, rfl⟩⟩
              · exact hallowed
              all_goals cases htype
            · rcases atRule_eq_some hx with ⟨-, href, l, rfl⟩ | ⟨hkeeps, -⟩
              · exact absurd rfl htype
              · rw [hkeeps, Bool.and_false]
          · rw [readRules_style hskip hstray hat]
            have hrest := ih _ (extent_rest_length_lt t r) topLevel
              (importsAllowed && (styleRule (t :: r) (extent 0 (t :: r))).rule.isNone) _ rfl
            refine hrest.before (fun hno => by simp [hno]) (fun x hx => ?_) (fun x hx htype => ?_)
              fun x hx _ => ?_
            · obtain ⟨selectors, declarations, rfl⟩ := styleRule_eq_some hx
              exact .style selectors declarations
            · obtain ⟨selectors, declarations, rfl⟩ := styleRule_eq_some hx
              cases htype
            · simp [Option.mem_def.1 hx]

theorem wellNested_readOne {tokens : List Token} {x : RuleSource}
    (h : (readOne tokens).1.rule = some x) : x.WellNested := by
  unfold readOne at h
  split at h
  · refine wellNested_atRule (fun hname => ?_) h
    rw [if_pos (beq_iff_eq.2 hname)]
    exact inOrder_readRules false false _
  · obtain ⟨selectors, declarations, rfl⟩ := styleRule_eq_some h
    exact .style selectors declarations

end RuleReader

/-- The rules of a sheet are in order. -/
theorem SheetSource.inOrder_ofString (text : String) :
    RuleReader.InOrder true (SheetSource.ofString text).rules :=
  RuleReader.inOrder_readRules true true (tokenize text)

/-- A single rule holds no imports either. -/
theorem RuleSource.wellNested_ofString {text : String} {x : RuleSource}
    (h : RuleSource.ofString text = .ok x) : x.WellNested := by
  unfold RuleSource.ofString at h
  split at h
  · cases h
  · dsimp only at h
    split at h
    · rename_i rule hrule
      split at h
      · obtain rfl := Except.ok.inj h
        exact RuleReader.wellNested_readOne hrule
      · cases h
    · split at h <;> cases h
    · cases h

end WebStyle
