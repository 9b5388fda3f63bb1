import WebStyle.Proofs.Number.Printed
import WebStyle.Proofs.Style.Pending
import WebStyle.Proofs.Style.Renaming
import WebStyle.Proofs.Text
/-!
Computed values are absolute: each known property has a value of its kind, whichever way it takes to
it. What the parent has is taken as it is, so that all styles along a line of descent are absolute,
by induction; but a width that is taken so may be that of a border that is not shown.
-/
set_option autoImplicit false

namespace WebStyle

/-! ### The forms of absolute values -/

/-- Three channels, or three channels and an opacity. -/
def IsColorText (text : String) : Prop :=
  ∃ red green blue : Nat, red < 256 ∧ green < 256 ∧ blue < 256 ∧
    (text = s!"rgb({red}, {green}, {blue})" ∨
      ∃ alpha, IsDecimal alpha ∧ text = s!"rgba({red}, {green}, {blue}, {alpha})")

def IsPixelText (text : String) : Prop := ∃ number, IsDecimal number ∧ text = number ++ "px"

/-- The name of an identifier that is read as a value by itself, without capital letters. -/
def IsKeywordText (text : String) : Prop :=
  (∃ value name, trimBlanks (tokenize value) = [.ident name] ∧ text = Text.lower name) ∧
    ∀ c ∈ text.toList, ¬ c.isUpper

/-- The texts that are absolute values of a kind, for the kinds that have such. -/
def ValueKind.Admits : ValueKind → String → Prop
  | .color => IsColorText
  | .fontSize | .borderWidth => IsPixelText
  | .fontWeight => IsDecimal
  | .keyword => IsKeywordText
  | .length _ | .lineHeight | .verbatim => fun _ => True

/-- Whether each known property has an absolute value. -/
def ComputedStyle.IsAbsolute (style : ComputedStyle) : Prop :=
  ∀ p ∈ Property.all, ∃ v, style.find? p.name = some v ∧ p.kind.Admits v

theorem isColorText_text (c : Color) : IsColorText c.text := by
  refine ⟨c.red.toNat, c.green.toNat, c.blue.toNat, c.red.toNat_lt, c.green.toNat_lt,
    c.blue.toNat_lt, ?_⟩
  rw [Color.text]
  split
  · exact .inl (by simp only [String.append_assoc]; rfl)
  · exact .inr ⟨_, isDecimal_formatNumber c.alpha, by simp only [String.append_assoc]; rfl⟩

theorem isPixelText_pixelText (x : Float) : IsPixelText (pixelText x) :=
  ⟨_, isDecimal_formatNumber x, rfl⟩

theorem isKeywordText_lower {value name : String}
    (h : trimBlanks (tokenize value) = [.ident name]) : IsKeywordText (Text.lower name) := by
  refine ⟨⟨value, name, h, rfl⟩, fun c hc => ?_⟩
  rw [Text.toList_lower] at hc
  obtain ⟨d, -, rfl⟩ := List.mem_map.1 hc
  exact isUpper_toLower d

/-- Only an identifier is a keyword. -/
theorem Component.ofString_eq_keyword {value k : String}
    (h : Component.ofString value = .keyword k) : IsKeywordText k := by
  unfold Component.ofString Component.ofTokens at h
  split at h
  · split at h <;> cases h
  · cases h
  · cases h
  · rename_i name hts
    have := isKeywordText_lower hts
    split at h
    · dsimp only at h
      split at h
      · cases h
        exact this
      · cases h
    · cases h
      exact this
  · split at h <;> cases h

namespace Scope

/-- What is known of an element before its properties are computed. -/
def start (specified : SpecifiedValues) (ctx : ComputeContext) : Scope :=
  ⟨specified, customsOf specified ctx, ctx, ctx.parentFontSize, none, .empty⟩

/-- What is known when a property is computed. -/
def stage (s : Scope) (p : Property) : Scope :=
  if p.kind = .fontSize then s
  else if p.name = "color" then s.sized
  else if p.kind = .borderWidth then s.styled
  else s.colored

variable {s : Scope} {p : Property}

theorem ctx_stage : (s.stage p).ctx = s.ctx := by
  unfold stage
  split_ifs <;> rfl

theorem nodup_names : (Property.all.map Property.name).Nodup := by decide +kernel

theorem kind_color : ∀ p ∈ Property.all, p.name = "color" → p.kind = .color := by decide +kernel

/-- Among values of properties that are selected, those are found by their names. -/
theorem find?_map_name (select : Property → Bool) (f : Property → String)
    (hp : p ∈ Property.all) :
    (Table.mk ((Property.all.filter select).map fun p => (p.name, f p))).find? p.name =
      if select p then some (f p) else none := by
  split
  · rename_i hselect
    have hnodup : ((Property.all.filter select).map Property.name).Nodup :=
      nodup_names.sublist (List.filter_sublist.map Property.name)
    exact (Table.find?_eq_some_iff (by simpa [Table.keys, Function.comp_def] using hnodup)).2
      (List.mem_map.2 ⟨p, List.mem_filter.2 ⟨hp, hselect⟩, rfl⟩)
  · rename_i hselect
    refine Table.find?_eq_none_iff.2 fun hmem => hselect ?_
    obtain ⟨q, ⟨hq, hq'⟩, hname⟩ : ∃ q, (q ∈ Property.all ∧ select q) ∧ q.name = p.name := by
      simpa [Table.keys] using hmem
    rwa [← List.inj_on_of_nodup_map nodup_names hq hp hname]

theorem plain_eq (s : Scope) : s.plain =
    ⟨(Property.all.filter fun p => !p.kind == .borderWidth).map fun p =>
      (p.name, (s.stage p).value p)⟩ := by
  refine congrArg Table.mk (List.map_congr_left fun p hp => ?_)
  have hwidth : p.kind ≠ .borderWidth := by simpa using (List.mem_filter.1 hp).2
  simp only [beq_iff_eq, stage, if_neg hwidth]
  split_ifs <;> rfl

theorem widths_eq (s : Scope) : s.widths =
    ⟨(Property.all.filter fun p => p.kind == .borderWidth).map fun p =>
      (p.name, (s.stage p).value p)⟩ := by
  refine congrArg Table.mk (List.map_congr_left fun p hp => ?_)
  obtain ⟨hp, hwidth⟩ := List.mem_filter.1 hp
  have hwidth : p.kind = .borderWidth := by simpa using hwidth
  have hname : p.name ≠ "color" := fun hname => by simp [kind_color p hp hname] at hwidth
  rw [stage, if_neg (by simp [hwidth]), if_neg hname, if_pos hwidth]

theorem find?_plain (hp : p ∈ Property.all) : s.plain.find? p.name =
    if p.kind = .borderWidth then none else some ((s.stage p).value p) := by
  rw [plain_eq, find?_map_name _ _ hp]
  by_cases hwidth : p.kind = .borderWidth <;> simp [hwidth]

/-- Each known property has the value that is computed at its stage. -/
theorem find?_compute (specified : SpecifiedValues) (ctx : ComputeContext)
    (hp : p ∈ Property.all) : (compute specified ctx).find? p.name =
      some (((start specified ctx).stage p).value p) := by
  rw [ComputedStyle.find?, compute_eq]
  change (Table.mk ((start specified ctx).plain.entries ++ (start specified ctx).widths.entries ++
    (start specified ctx).styled.unknown.entries ++ (customsOf specified ctx).entries)).find? _ = _
  simp only [find?_append, find?_plain hp, widths_eq, find?_map_name _ _ hp]
  by_cases hwidth : p.kind = .borderWidth <;> simp [hwidth]

/-! Each kind of value is absolute. -/

theorem exists_of_fontWeight? {value v : String} (h : s.fontWeight? value = some v) :
    ∃ x, v = formatNumber x := by
  unfold fontWeight? at h
  dsimp only at h
  split at h
  · exact ⟨_, (Option.some.inj h).symm⟩
  · exact ⟨_, (Option.some.inj h).symm⟩
  · exact ⟨_, (Option.some.inj h).symm⟩
  · exact ⟨_, (Option.some.inj h).symm⟩
  · obtain ⟨-, h⟩ := Option.ite_none_right_eq_some.1 h
    exact ⟨_, (Option.some.inj h).symm⟩
  · cases h

variable {current : Option String} {value v : String}

theorem admits_absolute? (hcurrent : ∀ c, current = some c → IsColorText c)
    (h : s.absolute? p current value = some v) : p.kind.Admits v := by
  unfold absolute? at h
  cases hkind : p.kind with
  | color =>
    simp only [hkind, color?] at h
    split at h
    · exact hcurrent v h
    · obtain ⟨c, -, rfl⟩ := Option.map_eq_some_iff.1 h
      exact isColorText_text c
  | borderWidth =>
    simp only [hkind, borderWidth?] at h
    obtain ⟨w, -, rfl⟩ := Option.map_eq_some_iff.1 h
    exact isPixelText_pixelText _
  | fontSize =>
    simp only [hkind] at h
    obtain ⟨size, -, rfl⟩ := Option.map_eq_some_iff.1 h
    exact isPixelText_pixelText size
  | fontWeight =>
    simp only [hkind] at h
    obtain ⟨x, rfl⟩ := exists_of_fontWeight? h
    exact isDecimal_formatNumber x
  | keyword =>
    simp only [hkind, keyword?] at h
    split at h
    · rename_i hk
      cases h
      exact Component.ofString_eq_keyword hk
    · cases h
  | length _ => trivial
  | lineHeight => trivial
  | verbatim => trivial

section Routes

variable (hp : p ∈ Property.all)
  (hknown : p.kind = .color → p.name = "color" ∨ s.color.isSome)
include hp hknown

/-- Initial values are valid, those that refer to the element's color once it is known. -/
theorem isSome_initial : (s.absolute? p s.color p.initial).isSome := by
  unfold absolute?
  cases hkind : p.kind with
  | color =>
    have hinitial : ∀ p ∈ Property.all, p.kind = .color →
        p.initial = "currentcolor" ∧ p.name ≠ "color" ∨
          Text.sameIgnoringCase p.initial "currentcolor" = false ∧
            (Color.ofString? p.initial).isSome := by decide +kernel
    rcases hinitial p hp hkind with ⟨hcurrent, hname⟩ | ⟨hother, hsome⟩
    · have hsame : Text.sameIgnoringCase "currentcolor" "currentcolor" = true := by decide
      simpa [color?, hcurrent, hsame] using (hknown hkind).resolve_left hname
    · simpa [color?, hother] using hsome
  | fontSize =>
    have hinitial : ∀ p ∈ Property.all, p.kind = .fontSize →
        Component.ofString p.initial = .keyword "medium" := by decide +kernel
    simp [fontSize?, hinitial p hp hkind, fontSizeKeywords]
  | borderWidth =>
    have hinitial : ∀ p ∈ Property.all, p.kind = .borderWidth →
        Component.ofString p.initial = .keyword "medium" := by decide +kernel
    simp [borderWidth?, lineWidth?, hinitial p hp hkind]
  | fontWeight =>
    have hinitial : ∀ p ∈ Property.all, p.kind = .fontWeight →
        Component.ofString p.initial = .keyword "normal" := by decide +kernel
    simp [fontWeight?, hinitial p hp hkind]
  | keyword =>
    have hinitial : ∀ p ∈ Property.all, p.kind = .keyword →
        (keyword? p.initial).isSome := by decide +kernel
    exact hinitial p hp hkind
  | length base =>
    have hinitial : ∀ p ∈ Property.all, p.kind matches .length _ →
        Component.ofString p.initial matches .keyword _ | .length _ := by decide +kernel
    have hreads := hinitial p hp (by simp [hkind])
    simp only [length?]
    split <;> simp_all
  | lineHeight =>
    have hinitial : ∀ p ∈ Property.all, p.kind = .lineHeight →
        Component.ofString p.initial = .keyword "normal" := by decide +kernel
    simp [lineHeight?, hinitial p hp hkind]
  | verbatim => rfl

variable (hcolor : ∀ c, s.color = some c → IsColorText c)
include hcolor

theorem admits_initial : p.kind.Admits (s.initial p) := by
  obtain ⟨v, hv⟩ := Option.isSome_iff_exists.1 (isSome_initial hp hknown)
  rw [initial, hv]
  exact admits_absolute? hcolor hv

variable (hparent : ∀ v, s.ctx.parentValue? p.name = some v → p.kind.Admits v)
include hparent

theorem admits_inherit : p.kind.Admits (s.inherit p) := by
  rw [inherit]
  cases hv : s.ctx.parentValue? p.name with
  | none => exact admits_initial hp hknown hcolor
  | some v => exact hparent v hv

/-- By whatever route a value comes, it is absolute. -/
theorem admits_value : p.kind.Admits (s.value p) := by
  have hinitial := admits_initial hp hknown hcolor
  have hinherit := admits_inherit hp hknown hcolor hparent
  have hunset : p.kind.Admits (s.unset p) := by
    rw [unset]
    split
    · exact hinherit
    · exact hinitial
  rw [value]
  split
  · exact hunset
  · dsimp only
    split
    · exact hunset
    · exact hunset
    · exact hinitial
    · exact hinherit
    · cases hv : s.absolute? p (if p.name == "color" then some (s.inherit p) else s.color) _ with
      | none => exact hunset
      | some v =>
        refine admits_absolute? (fun c hc => ?_) hv
        split at hc
        · rename_i hname
          rw [kind_color p hp (by simpa using hname)] at hinherit
          exact Option.some.inj hc ▸ hinherit
        · exact hcolor c hc

end Routes

theorem color_stage (s : Scope) (p : Property) : (s.stage p).color =
    if p.kind = .fontSize ∨ p.name = "color" then s.color else s.sized.valueOf? "color" := by
  unfold stage
  by_cases hsize : p.kind = .fontSize
  · simp [hsize]
  · by_cases hname : p.name = "color"
    · simp [hsize, hname, sized]
    · simp only [hsize, hname, or_self, if_false]
      split_ifs <;> rfl

end Scope

/-! ### Lines of descent -/

/-- The computed styles of elements along a line of descent, each with its own specified values and
with the style before it as its parent. -/
inductive Descends : ComputedStyle → Prop
  | root (specified : SpecifiedValues) {ctx : ComputeContext} (h : ctx.parent = none) :
    Descends (compute specified ctx)
  | child {parent : ComputedStyle} (hparent : Descends parent) (specified : SpecifiedValues)
      {ctx : ComputeContext} (h : ctx.parent = some parent) : Descends (compute specified ctx)

/-- Below an absolute style there is an absolute style. -/
theorem isAbsolute_compute (specified : SpecifiedValues) {ctx : ComputeContext}
    (h : ∀ parent, ctx.parent = some parent → parent.IsAbsolute) :
    (compute specified ctx).IsAbsolute := by
  have hparent : ∀ p ∈ Property.all, ∀ v, ctx.parentValue? p.name = some v → p.kind.Admits v := by
    intro p hp v hv
    obtain ⟨parent, hctx, hv⟩ := Option.bind_eq_some_iff.1 hv
    obtain ⟨w, hw, hadmits⟩ := h parent hctx p hp
    rw [hw] at hv
    exact Option.some.inj hv ▸ hadmits
  generalize hs : Scope.start specified ctx = s
  have hctx : s.ctx = ctx := hs ▸ rfl
  have hnone : s.color = none := hs ▸ rfl
  obtain ⟨c, hc, hcolor⟩ : ∃ c, s.sized.valueOf? "color" = some c ∧ IsColorText c := by
    have hmem : ⟨"color", true, "rgb(0, 0, 0)", .color⟩ ∈ Property.all := by decide +kernel
    refine ⟨_, rfl, Scope.admits_value hmem (fun _ => .inl rfl) (fun c hc => ?_) ?_⟩
    · rw [show s.sized.color = none from hnone] at hc
      cases hc
    · exact hctx ▸ hparent _ hmem
  intro p hp
  refine ⟨_, Scope.find?_compute specified ctx hp, Scope.admits_value hp ?_ ?_ ?_⟩
  · intro hkind
    rw [hs, Scope.color_stage, hc]
    by_cases hname : p.name = "color" <;> simp [hkind, hname]
  · intro c' hc'
    rw [hs, Scope.color_stage, hc, hnone] at hc'
    split at hc'
    · cases hc'
    · exact Option.some.inj hc' ▸ hcolor
  · rw [hs, Scope.ctx_stage, hctx]
    exact hparent p hp

theorem Descends.isAbsolute {style : ComputedStyle} (h : Descends style) : style.IsAbsolute := by
  induction h with
  | root specified h =>
    refine isAbsolute_compute specified fun parent hparent => ?_
    rw [h] at hparent
    cases hparent
  | child _ specified h ih =>
    refine isAbsolute_compute specified fun parent hparent => ?_
    rw [h] at hparent
    exact Option.some.inj hparent ▸ ih

/-- An element whose upper border is shown. -/
def shownBorder : ComputedStyle :=
  compute (declaring [("border-top-width", "5px"), ("border-top-style", "solid")]) rootContext

theorem isAbsolute_belowShownBorder :
    (compute (declaring [("font-size", "2em"), ("color", "var(--c, currentcolor)")])
      { rootContext with parent := some shownBorder }).IsAbsolute :=
  Descends.isAbsolute (.child (.root _ rfl) _ rfl)

/-! ### Borders that are not shown -/

namespace Scope

/-- Whether a property is declared, in the end, to have the value of the parent. -/
def asksParent (s : Scope) (name : String) : Bool :=
  (s.specified.find? name).any fun v => Text.lower (Text.trim (s.declaredText name v)) == "inherit"

variable {s : Scope} {p : Property}

theorem showsBorder_of_hidden {name : String}
    (h : s.styles.find? (styleOfWidth name) = some "none" ∨
      s.styles.find? (styleOfWidth name) = some "hidden") : s.showsBorder name = false := by
  unfold showsBorder
  rcases h with h | h
  · rw [h]
    rfl
  · rw [h]
    rfl

theorem borderWidth?_of_hidden {name value v : String} (hhidden : s.showsBorder name = false)
    (h : s.borderWidth? name value = some v) : v = "0px" := by
  have hzero : pixelText 0.0 = "0px" := by decide +kernel
  obtain ⟨w, -, rfl⟩ := Option.map_eq_some_iff.1 h
  simp [hhidden, hzero]

/-- A width that is not taken from the parent is nothing where the border is not shown. -/
theorem value_of_hidden (hp : p ∈ Property.all) (hkind : p.kind = .borderWidth)
    (hhidden : s.showsBorder p.name = false) : s.value p =
      if s.asksParent p.name then (s.ctx.parentValue? p.name).getD "0px" else "0px" := by
  have hplain : ∀ p ∈ Property.all, p.kind = .borderWidth → p.inherited = false := by
    decide +kernel
  have habsolute : ∀ current text v, s.absolute? p current text = some v → v = "0px" := by
    intro current text v hv
    rw [absolute?, hkind] at hv
    exact borderWidth?_of_hidden hhidden hv
  have hinitial : s.initial p = "0px" := by
    obtain ⟨v, hv⟩ :=
      Option.isSome_iff_exists.1 (isSome_initial (s := s) hp (by simp [hkind]))
    rw [initial, hv]
    exact habsolute _ _ _ hv
  have hunset : s.unset p = "0px" := by rw [unset, hplain p hp hkind, ← hinitial]; rfl
  unfold value asksParent
  cases s.specified.find? p.name with
  | none => exact hunset
  | some v =>
    simp only [Option.any_some]
    by_cases hasks : Text.lower (Text.trim (s.declaredText p.name v)) = "inherit"
    · rw [if_pos (beq_iff_eq.2 hasks), hasks, ← hinitial]
      rfl
    · rw [if_neg fun h => hasks (beq_iff_eq.1 h)]
      split
      · exact hunset
      · exact hunset
      · exact hinitial
      · exact absurd ‹_› hasks
      · cases hv : s.absolute? p (if p.name == "color" then some (s.inherit p) else s.color) _ with
        | none => exact hunset
        | some v => exact habsolute _ _ v hv

end Scope

/-- A border that is not shown has no width, unless its width is declared to be that of the parent,
which is taken as it is. -/
theorem find?_compute_hidden (specified : SpecifiedValues) (ctx : ComputeContext) {side : String}
    (hside : side ∈ ["top", "right", "bottom", "left"])
    (hhidden : (compute specified ctx).find? ("border-" ++ side ++ "-style") = some "none" ∨
      (compute specified ctx).find? ("border-" ++ side ++ "-style") = some "hidden") :
    let width := "border-" ++ side ++ "-width"
    (compute specified ctx).find? width =
      some (if (Scope.start specified ctx).asksParent width then (ctx.parentValue? width).getD "0px"
        else "0px") := by
  intro width
  have hsides : ∀ side ∈ ["top", "right", "bottom", "left"],
      (∃ p ∈ Property.all, p.name = "border-" ++ side ++ "-width" ∧ p.kind = .borderWidth) ∧
      (∃ q ∈ Property.all, q.name = "border-" ++ side ++ "-style" ∧ q.kind = .keyword) ∧
        Scope.styleOfWidth ("border-" ++ side ++ "-width") = "border-" ++ side ++ "-style" := by
    decide +kernel
  obtain ⟨⟨p, hp, hname, hkind⟩, ⟨q, hq, hstyle, hkeyword⟩, hof⟩ := hsides side hside
  generalize hs : Scope.start specified ctx = s
  have hstage : s.stage p = s.styled := by
    have hcolor : p.name ≠ "color" := fun h => by simp [Scope.kind_color p hp h] at hkind
    rw [Scope.stage, if_neg (by simp [hkind]), if_neg hcolor, if_pos hkind]
  have hplain : s.plain.find? q.name = (compute specified ctx).find? q.name := by
    rw [Scope.find?_plain hq, if_neg (by simp [hkeyword]), Scope.find?_compute specified ctx hq, hs]
  have hnone : s.styled.showsBorder p.name = false := by
    rw [← hstyle, ← hplain, hstyle, ← hof, ← hname] at hhidden
    exact Scope.showsBorder_of_hidden hhidden
  have hctx : s.styled.ctx = ctx := hs ▸ rfl
  rw [show width = p.name from hname.symm, Scope.find?_compute specified ctx hp, hs, hstage,
    Scope.value_of_hidden hp hkind hnone, hctx]
  rfl


/-- An element that has the same width below such a border, but no style. -/
theorem find?_compute_hidden_inherited :
    let specified := declaring [("border-top-width", "inherit")]
    let ctx := { rootContext with parent := some shownBorder }
    (compute specified ctx).find? "border-top-style" = some "none" ∧
      (compute specified ctx).find? "border-top-width" = some "5px" := by
  intro specified ctx
  have hhidden : (compute specified ctx).find? "border-top-style" = some "none" := by
    decide +kernel
  refine ⟨hhidden, ?_⟩
  have htop : "top" ∈ ["top", "right", "bottom", "left"] := by decide
  have hwidth := find?_compute_hidden specified ctx htop (.inl hhidden)
  rw [show "border-" ++ "top" ++ "-width" = "border-top-width" from rfl] at hwidth
  rw [hwidth]
  decide +kernel

theorem not_find?_compute_hidden : ¬ ∀ (specified : SpecifiedValues) (ctx : ComputeContext),
    (∀ parent, ctx.parent = some parent → ∃ specified' ctx', parent = compute specified' ctx') →
    ∀ side ∈ ["top", "right", "bottom", "left"],
      (compute specified ctx).find? ("border-" ++ side ++ "-style") = some "none" ∨
        (compute specified ctx).find? ("border-" ++ side ++ "-style") = some "hidden" →
      (compute specified ctx).find? ("border-" ++ side ++ "-width") = some "0px" := by
  intro h
  have hwidth := h (declaring [("border-top-width", "inherit")])
    { rootContext with parent := some shownBorder }
    (fun parent hparent => ⟨_, _, (Option.some.inj hparent).symm⟩) "top" (by decide)
    (.inl (by decide +kernel))
  exact absurd hwidth (by decide +kernel)

end WebStyle
