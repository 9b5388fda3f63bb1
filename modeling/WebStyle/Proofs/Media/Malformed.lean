import Mathlib.Data.List.Basic
import WebStyle.Media.Environment
/-!
Malformed features. A feature is compared with a device if its name is known, its value is one that
the name takes, and there is a value if the name asks for the least or the greatest one. Any other
feature does not hold, so a query with it holds of no device, or of every device if it is negated.
The exception is that the least and the greatest ratio or resolution, without a value, hold of every
device.
-/
set_option autoImplicit false

namespace WebStyle

/-! ### Numbers as text -/

namespace Numeral

variable {cs : List Char}

def IsSign (cs : List Char) : Prop := cs = [] ∨ cs = ['+'] ∨ cs = ['-']

def IsDigits (cs : List Char) : Prop := ∀ c ∈ cs, c.isDigit

inductive IsExponent : List Char → Prop
  | mk {mark : Char} {sign ds : List Char} (hmark : mark = 'e' ∨ mark = 'E') (hsign : IsSign sign)
      (hds : IsDigits ds) (hne : ds ≠ []) : IsExponent (mark :: (sign ++ ds))

theorem exists_readSign (cs : List Char) : ∃ sign, IsSign sign ∧ cs = sign ++ (readSign cs).2 := by
  unfold readSign
  split
  · exact ⟨['+'], .inr (.inl rfl), rfl⟩
  · exact ⟨['-'], .inr (.inr rfl), rfl⟩
  · exact ⟨[], .inl rfl, rfl⟩

theorem isDigits_readDigits (cs : List Char) : IsDigits (readDigits cs).1 :=
  List.all_eq_true.1 List.all_takeWhile

theorem fst_append_snd_readDigits (cs : List Char) : (readDigits cs).1 ++ (readDigits cs).2 = cs :=
  List.takeWhile_append_dropWhile

theorem isExponent_of_readExponent? {e : Int} (h : readExponent? cs = some (e, [])) :
    IsExponent cs := by
  unfold readExponent? at h
  split at h
  · rename_i mark r
    split at h
    · rename_i hmark
      obtain ⟨sign, hsign, hr⟩ := exists_readSign r
      have hds := isDigits_readDigits (readSign r).2
      have happend := fst_append_snd_readDigits (readSign r).2
      simp only at h
      split at h
      · cases h
      · rename_i ds rest hne heq
        obtain ⟨-, rfl⟩ := Prod.mk.inj (Option.some.inj h)
        rw [heq] at hds happend
        rw [hr, ← happend, List.append_nil]
        exact ⟨by simpa using hmark, hsign, hds, hne⟩
    · cases h
  · cases h

/-- The texts that are read as numbers: those of style sheets, but for digits that may also be
missing after the point, and the words for what is not finite. -/
inductive IsNumber : List Char → Prop
  | word {sign word : List Char} (hsign : IsSign sign)
      (hword : Text.lower (String.ofList word) ∈ ["inf", "infinity", "nan"]) :
      IsNumber (sign ++ word)
  | decimal {sign whole point ds exponent : List Char} (hsign : IsSign sign)
      (hwhole : IsDigits whole) (hpoint : point = ['.'] ∨ point = [] ∧ ds = []) (hds : IsDigits ds)
      (hne : whole ++ ds ≠ []) (hexponent : exponent = [] ∨ IsExponent exponent) :
      IsNumber (sign ++ (whole ++ (point ++ (ds ++ exponent))))

/-- What is read after the sign, when the digits are told apart. -/
theorem isNumber_of_digits {sign whole rest : List Char} (point ds : List Char)
    {negative : Bool} {value : Int → Binary64} {n : Binary64} (hsign : IsSign sign)
    (hcs : cs = whole ++ (point ++ (ds ++ rest))) (hwhole : IsDigits whole)
    (hpoint : point = ['.'] ∨ point = [] ∧ ds = []) (hds : IsDigits ds)
    (h : (if (whole ++ ds).isEmpty then
        let word := Text.lower (String.ofList cs)
        if word == "inf" || word == "infinity" then some (.infinite negative)
        else if word == "nan" then some .notANumber
        else none
      else match (if rest.isEmpty then some (0, []) else readExponent? rest) with
        | some (e, []) => some (value e)
        | _ => none) = some n) : IsNumber (sign ++ cs) := by
  split at h
  · refine .word hsign ?_
    simp only at h
    split at h
    · rename_i hword
      rcases Bool.or_eq_true_iff.1 hword with hword | hword <;> simp [eq_of_beq hword]
    · split at h
      · rename_i hword
        simp [eq_of_beq hword]
      · cases h
  · rename_i hne
    rw [hcs]
    refine .decimal hsign hwhole hpoint hds (by simpa using hne) ?_
    split at h
    · rename_i e hexponent
      split at hexponent
      · exact .inl (by simpa using ‹rest.isEmpty = true›)
      · exact .inr (isExponent_of_readExponent? hexponent)
    · cases h

theorem isNumber_of_ofString? {s : String} {n : Binary64} (h : Binary64.ofString? s = some n) :
    IsNumber s.toList := by
  obtain ⟨sign, hsign, hs⟩ := exists_readSign s.toList
  have hwhole := isDigits_readDigits (readSign s.toList).2
  have happend := (fst_append_snd_readDigits (readSign s.toList).2).symm
  rw [hs]
  simp only [Binary64.ofString?] at h
  split at h
  · rename_i r hrest
    rw [hrest, ← fst_append_snd_readDigits r] at happend
    exact isNumber_of_digits ['.'] _ hsign happend hwhole (.inl rfl) (isDigits_readDigits r) h
  · exact isNumber_of_digits [] [] hsign happend hwhole (.inr ⟨rfl, rfl⟩) nofun h

end Numeral

/-! ### Well-formed features -/

namespace MediaFeature

open Numeral

/-- A length, or a zero without a unit. -/
def IsLength (v : String) : Prop :=
  (∃ n, trimBlanks (tokenize v) = [.number n] ∧ n.toFloat == 0.0) ∨
    ∃ n unit, trimBlanks (tokenize v) = [.dimension n unit] ∧ (LengthUnit.ofName? unit).isSome

/-- Two numbers with a slash between them, the second one positive, or a single number. -/
inductive IsRatio (v : String) : Prop
  | single (h : IsNumber (Text.trim v).toList)
  | pair {num den : List Char} {d : Binary64} (hv : v.toList = num ++ '/' :: den)
      (hnum : IsNumber (Text.trim (String.ofList num)).toList)
      (hden : Binary64.ofString? (Text.trim (String.ofList den)) = some d) (hd : 0.0 < d.toFloat)

/-- Digits, with a plus sign or without. -/
def IsCount (v : String) : Prop :=
  ∃ ds, IsDigits ds ∧ ds ≠ [] ∧ (v.toList = ds ∨ v.toList = '+' :: ds)

def IsResolution (v : String) : Prop :=
  ∃ n unit, tokenize v = [.dimension n unit] ∧ Text.lower unit ∈ ["dppx", "x", "dpi", "dpcm"]

/-- What a feature is compared by. -/
inductive Kind where
  | length
  | ratio
  | count
  | resolution
  | word (words : List String)
  deriving DecidableEq

namespace Kind

/-- The values that a feature of a kind takes. -/
def Admits (kind : Kind) (v : String) : Prop :=
  match kind with
  | .length => IsLength v
  | .ratio => IsRatio v
  | .count => IsCount v
  | .resolution => IsResolution v
  | .word words => v ∈ words

/-- Whether there are a least and a greatest value of a kind. -/
def isOrdered : Kind → Bool
  | .word _ => false
  | _ => true

end Kind

/-- The names of the features that are known. -/
def kinds : List (String × Kind) :=
  [("width", .length), ("device-width", .length), ("height", .length), ("device-height", .length),
   ("aspect-ratio", .ratio), ("device-aspect-ratio", .ratio), ("color", .count),
   ("monochrome", .count), ("resolution", .resolution),
   ("orientation", .word ["portrait", "landscape"]), ("grid", .word ["0", "1"]),
   ("prefers-color-scheme", .word ["light", "dark"]),
   ("prefers-reduced-motion", .word ["reduce", "no-preference"])]

/-- The features that a device can be compared with. -/
inductive WellFormed (f : MediaFeature) : Prop
  | bare {kind : Kind} (hname : (f.name, kind) ∈ kinds) (hvalue : f.value = none)
  | exact {kind : Kind} {v : String} (hname : (f.name, kind) ∈ kinds) (hvalue : f.value = some v)
      (hadmits : kind.Admits v)
  | ranged {lead name : String} {kind : Kind} {v : String} (hlead : lead ∈ ["min-", "max-"])
      (hname : (name, kind) ∈ kinds) (heq : f.name = lead ++ name) (hordered : kind.isOrdered)
      (hvalue : f.value = some v) (hadmits : kind.Admits v)

section

variable {f : MediaFeature} {lead name v : String} {kind : Kind}

/-- An unknown feature is malformed. -/
theorem not_wellFormed_of_unknown
    (h : ∀ lead ∈ ["", "min-", "max-"], ∀ p ∈ kinds, f.name ≠ lead ++ p.1) : ¬ f.WellFormed := by
  have hplain : ∀ {kind}, (f.name, kind) ∉ kinds := fun hname =>
    h "" (by decide) _ hname (String.empty_append).symm
  rintro (⟨hname, -⟩ | ⟨hname, -, -⟩ | ⟨hlead, hname, heq, -, -, -⟩)
  · exact hplain hname
  · exact hplain hname
  · exact h _ (List.mem_cons_of_mem _ hlead) _ hname heq

/-- A feature that asks for the least or the greatest value, without a value, is malformed. -/
theorem not_wellFormed_of_bare (hlead : lead ∈ ["min-", "max-"]) (hname : f.name = lead ++ name)
    (hvalue : f.value = none) : ¬ f.WellFormed := by
  have hstart : ∀ lead ∈ ["min-", "max-"], ∀ p ∈ kinds, ¬ lead.toList <+: p.1.toList := by decide
  rintro (⟨hknown, -⟩ | ⟨-, hsome, -⟩ | ⟨-, -, -, -, hsome, -⟩)
  · refine hstart lead hlead _ hknown ?_
    rw [hname, String.toList_append]
    exact List.prefix_append _ _
  · cases hvalue.symm.trans hsome
  · cases hvalue.symm.trans hsome

/-- A feature with a value that its name does not take is malformed. -/
theorem not_wellFormed_of_value (hlead : lead ∈ ["", "min-", "max-"]) (hname : (name, kind) ∈ kinds)
    (heq : f.name = lead ++ name) (hvalue : f.value = some v) (hadmits : ¬ kind.Admits v) :
    ¬ f.WellFormed := by
  have hunique : ∀ lead ∈ ["", "min-", "max-"], ∀ p ∈ kinds, ∀ lead' ∈ ["", "min-", "max-"],
      ∀ p' ∈ kinds, lead ++ p.1 = lead' ++ p'.1 → p.2 = p'.2 := by decide +kernel
  have hother : ∀ {lead' name' kind'}, lead' ∈ ["", "min-", "max-"] → (name', kind') ∈ kinds →
      f.name = lead' ++ name' → ∀ v', f.value = some v' → ¬ kind'.Admits v' := by
    intro lead' name' kind' hlead' hname' heq' v' hvalue' hadmits'
    obtain rfl := Option.some.inj (hvalue.symm.trans hvalue')
    obtain rfl : kind = kind' :=
      hunique lead hlead _ hname lead' hlead' _ hname' (heq.symm.trans heq')
    exact hadmits hadmits'
  rintro (⟨-, hnone⟩ | ⟨hknown, hsome, hadmits'⟩ | ⟨hlead', hknown, heq', -, hsome, hadmits'⟩)
  · cases hvalue.symm.trans hnone
  · exact hother List.mem_cons_self hknown String.empty_append.symm _ hsome hadmits'
  · exact hother (List.mem_cons_of_mem _ hlead') hknown heq' _ hsome hadmits'

end

/-- The least and the greatest ratio or resolution, without a value. -/
def overlooked : List MediaFeature :=
  [⟨"min-aspect-ratio", none⟩, ⟨"max-aspect-ratio", none⟩, ⟨"min-device-aspect-ratio", none⟩,
   ⟨"max-device-aspect-ratio", none⟩, ⟨"min-resolution", none⟩, ⟨"max-resolution", none⟩]

end MediaFeature

namespace MediaEnvironment

open MediaFeature Numeral

variable {env : MediaEnvironment} {f : MediaFeature} {range : Range} {name : String}

/-! ### Values that are read -/

theorem ofTokens_eq_number {ts : List Token} {x : Float}
    (h : Component.ofTokens ts = .number x) : ∃ n, ts = [.number n] ∧ n.toFloat = x := by
  unfold Component.ofTokens at h
  split at h
  · split at h <;> cases h
  · cases h
  · exact ⟨_, rfl, Component.number.inj h⟩
  · simp only at h
    split at h
    · split at h <;> cases h
    · cases h
  · split at h <;> cases h

theorem ofTokens_eq_length {ts : List Token} {l : Length}
    (h : Component.ofTokens ts = .length l) :
    ∃ n name, ts = [.dimension n name] ∧ (LengthUnit.ofName? name).isSome := by
  unfold Component.ofTokens at h
  split at h
  · split at h
    · rename_i hunit
      exact ⟨_, _, rfl, by rw [hunit, Option.isSome_some]⟩
    · cases h
  · cases h
  · cases h
  · simp only at h
    split at h
    · split at h <;> cases h
    · cases h
  · split at h <;> cases h

theorem isLength_of_pixels? {v : String} {x : Float} (h : env.pixels? v = some x) : IsLength v := by
  unfold pixels? Component.ofString at h
  split at h
  · rename_i hnumber
    split at h
    · rename_i hzero
      obtain ⟨n, hread, rfl⟩ := ofTokens_eq_number hnumber
      exact .inl ⟨n, hread, hzero⟩
    · cases h
  · rename_i hlength
    exact .inr (ofTokens_eq_length hlength)
  · cases h

theorem isCount_of_count? {v : String} {n : Nat} (h : count? v = some n) : IsCount v := by
  have hdigits : ∀ {ds : List Char},
      (if !ds.isEmpty && ds.all Char.isDigit && Text.digitsValue ds ≤ 4294967295 then
        some (Text.digitsValue ds) else none) = some n → IsDigits ds ∧ ds ≠ [] := by
    intro ds h
    split at h
    · rename_i hds
      simp only [Bool.and_eq_true, Bool.not_eq_true'] at hds
      exact ⟨List.all_eq_true.1 hds.1.2, by simpa using hds.1.1⟩
    · cases h
  simp only [count?] at h
  split at h
  · rename_i ds hv
    exact ⟨ds, (hdigits h).1, (hdigits h).2, .inr hv⟩
  · exact ⟨v.toList, (hdigits h).1, (hdigits h).2, .inl rfl⟩

theorem eq_of_cutAt {p : Char → Bool} {cs num : List Char} {den : Option (List Char)}
    (h : Text.cutAt p cs = (num, den)) :
    (den = none → cs = num) ∧ ∀ r ∈ den, ∃ c, p c ∧ cs = num ++ c :: r := by
  induction cs generalizing num den with
  | nil =>
    obtain ⟨rfl, rfl⟩ := Prod.mk.inj h
    exact ⟨fun _ => rfl, nofun⟩
  | cons c cs ih =>
    rw [Text.cutAt] at h
    split at h
    · rename_i hc
      obtain ⟨rfl, rfl⟩ := Prod.mk.inj h
      refine ⟨nofun, ?_⟩
      rintro _ ⟨⟩
      exact ⟨c, hc, rfl⟩
    · obtain ⟨rfl, rfl⟩ := Prod.mk.inj h
      obtain ⟨hnone, hsome⟩ := ih rfl
      refine ⟨fun hden => congrArg (c :: ·) (hnone hden), fun r hr => ?_⟩
      obtain ⟨d, hd, heq⟩ := hsome r hr
      exact ⟨d, hd, congrArg (c :: ·) heq⟩

theorem isRatio_of_ratio? {v : String} {x : Float} (h : ratio? v = some x) : IsRatio v := by
  simp only [ratio?] at h
  split at h
  · rename_i num hcut
    obtain ⟨n, hn, -⟩ := Option.map_eq_some_iff.1 h
    rw [← (eq_of_cutAt hcut).1 rfl, String.ofList_toList] at hn
    exact .single (isNumber_of_ofString? hn)
  · rename_i num den hcut
    simp only [Option.bind_eq_bind, Option.bind_eq_some_iff, Option.map_eq_some_iff] at h
    obtain ⟨_, ⟨n, hn, rfl⟩, _, ⟨d, hd, rfl⟩, h⟩ := h
    obtain ⟨c, hc, heq⟩ := (eq_of_cutAt hcut).2 den rfl
    obtain rfl := eq_of_beq hc
    split at h
    · exact .pair heq (isNumber_of_ofString? hn) hd ‹_›
    · cases h

theorem isResolution_of_resolution? {v : String} {x : Float} (h : resolution? v = some x) :
    IsResolution v := by
  unfold resolution? at h
  split at h
  · rename_i n unit hread
    refine ⟨n, unit, hread, ?_⟩
    split at h <;> first | simp only [‹Text.lower unit = _›]; decide | cases h
  · cases h

theorem splitRange_cases (name : String) :
    (∃ rest, name = "min-" ++ rest ∧ splitRange name = (.atLeast, rest)) ∨
      (∃ rest, name = "max-" ++ rest ∧ splitRange name = (.atMost, rest)) ∨
        splitRange name = (.exact, name) := by
  have hafter : ∀ {lead rest : String}, Text.after? lead name = some rest →
      name = lead ++ rest := by
    intro lead rest h
    obtain ⟨r, hr, rfl⟩ := Option.map_eq_some_iff.1 h
    rw [← String.toList_inj, String.toList_append, String.toList_ofList]
    exact (List.isPrefixOf?_eq_some_iff_append_eq.1 hr).symm
  unfold splitRange
  split
  · rename_i hmin
    exact .inl ⟨_, hafter hmin, rfl⟩
  · rename_i hmax _
    exact .inr (.inl ⟨_, hafter hmax, rfl⟩)
  · exact .inr (.inr rfl)

theorem featureHolds_of_overlooked (h : f ∈ overlooked) : env.featureHolds f = true := by
  simp only [overlooked, List.mem_cons, List.not_mem_nil, or_false] at h
  obtain rfl | rfl | rfl | rfl | rfl | rfl := h <;> rfl

/-- What the value of a feature of a kind is when the feature holds. -/
def Fits (kind : Kind) (value : Option String) (range : Range) : Prop :=
  match value with
  | none => range = .exact ∨ kind = .ratio ∨ kind = .resolution
  | some v => kind.Admits v ∧ (range = .exact ∨ kind.isOrdered)

theorem fits_of_any {α : Type} (kind : Kind) {v : String} {value : Option α} {p : α → Bool}
    (hread : ∀ {x}, value = some x → kind.Admits v) (hordered : kind.isOrdered)
    (h : value.any p = true) : Fits kind (some v) range := by
  obtain ⟨x, hx, -⟩ := (Option.any_eq_true p value).1 h
  exact ⟨hread hx, .inr hordered⟩

theorem fits_of_lengthHolds {actual : Float} {value : Option String}
    (h : env.lengthHolds actual value range = true) : Fits .length value range := by
  cases value with
  | none => exact .inl (eq_of_beq (Bool.and_eq_true_iff.1 h).1)
  | some v => exact fits_of_any .length isLength_of_pixels? rfl h

theorem fits_of_countHolds {actual : Nat} {value : Option String}
    (h : countHolds actual value range = true) : Fits .count value range := by
  cases value with
  | none => exact .inl (eq_of_beq (Bool.and_eq_true_iff.1 h).1)
  | some v => exact fits_of_any .count isCount_of_count? rfl h

theorem fits_of_featureHolds (h : env.featureHolds f = true) :
    ∃ kind, ((splitRange f.name).2, kind) ∈ kinds ∧ Fits kind f.value (splitRange f.name).1 := by
  obtain ⟨full, value⟩ := f
  simp only [featureHolds] at h ⊢
  generalize splitRange full = split at h ⊢
  obtain ⟨range, name⟩ := split
  simp only at h ⊢
  split at h
  · exact ⟨.length, by decide, fits_of_lengthHolds h⟩
  · exact ⟨.length, by decide, fits_of_lengthHolds h⟩
  · exact ⟨.length, by decide, fits_of_lengthHolds h⟩
  · exact ⟨.length, by decide, fits_of_lengthHolds h⟩
  · refine ⟨.ratio, by decide, ?_⟩
    cases value with
    | none => exact .inr (.inl rfl)
    | some v => exact fits_of_any .ratio isRatio_of_ratio? rfl h
  · refine ⟨.ratio, by decide, ?_⟩
    cases value with
    | none => exact .inr (.inl rfl)
    | some v => exact fits_of_any .ratio isRatio_of_ratio? rfl h
  · exact ⟨.count, by decide, fits_of_countHolds h⟩
  · exact ⟨.count, by decide, fits_of_countHolds h⟩
  · refine ⟨.resolution, by decide, ?_⟩
    cases value with
    | none => exact .inr (.inr rfl)
    | some v => exact fits_of_any .resolution isResolution_of_resolution? rfl h
  · split at h
    · cases h
    · obtain rfl : range = .exact := by simpa using ‹¬ (range != .exact) = true›
      split at h
      all_goals first | simp [kinds, Fits, Kind.Admits]; done | cases h

/-- A feature whose name asks for the least or the greatest value. -/
theorem wellFormed_of_ranged {lead : String} {kind : Kind} (hlead : lead ∈ ["min-", "max-"])
    (heq : f.name = lead ++ name) (hname : (name, kind) ∈ kinds)
    (hfits : Fits kind f.value range) (hrange : range ≠ .exact) :
    f.WellFormed ∨ f ∈ overlooked := by
  obtain ⟨full, value⟩ := f
  obtain rfl : full = lead ++ name := heq
  cases value with
  | none =>
    have hbare : kind = .ratio ∨ kind = .resolution := hfits.resolve_left hrange
    have hall : ∀ lead ∈ ["min-", "max-"], ∀ p ∈ kinds, p.2 = .ratio ∨ p.2 = .resolution →
        ⟨lead ++ p.1, none⟩ ∈ overlooked := by decide
    exact .inr (hall lead hlead (name, kind) hname hbare)
  | some v =>
    have hordered : kind.isOrdered := hfits.2.resolve_left hrange
    exact .inl (.ranged hlead hname rfl hordered rfl hfits.1)

/-- A feature that holds is well-formed or overlooked. -/
theorem wellFormed_of_featureHolds (h : env.featureHolds f = true) :
    f.WellFormed ∨ f ∈ overlooked := by
  obtain ⟨kind, hname, hfits⟩ := fits_of_featureHolds h
  obtain ⟨rest, heq, hsplit⟩ | ⟨rest, heq, hsplit⟩ | hsplit := splitRange_cases f.name
  · rw [hsplit] at hname hfits
    exact wellFormed_of_ranged (by decide) heq hname hfits nofun
  · rw [hsplit] at hname hfits
    exact wellFormed_of_ranged (by decide) heq hname hfits nofun
  · rw [hsplit] at hname hfits
    cases hvalue : f.value with
    | none => exact .inl (.bare hname hvalue)
    | some v =>
      rw [hvalue] at hfits
      exact .inl (.exact hname hvalue hfits.1)

/-- A malformed feature makes no difference if it is overlooked. Otherwise it decides the query. -/
theorem queryHolds_of_malformed {q : MediaQuery} (hf : f ∈ q.features) (h : ¬ f.WellFormed) :
    env.queryHolds q =
      if f ∈ overlooked then env.queryHolds { q with features := q.features.filter (· != f) }
      else q.qualifier == some .negated := by
  split
  · rename_i hover
    have hall : q.features.all env.featureHolds =
        (q.features.filter (· != f)).all env.featureHolds := by
      rw [Bool.eq_iff_iff, List.all_eq_true, List.all_eq_true]
      refine ⟨fun h g hg => h g (List.mem_filter.1 hg).1, fun h g hg => ?_⟩
      by_cases hgf : g = f
      · rw [hgf, featureHolds_of_overlooked hover]
      · exact h g (List.mem_filter.2 ⟨hg, by simpa using hgf⟩)
    simp only [queryHolds, typeHolds, hall]
  · rename_i hover
    have hfails : env.featureHolds f = false := by
      by_contra hholds
      exact (wellFormed_of_featureHolds (by simpa using hholds)).elim h hover
    have hall : q.features.all env.featureHolds = false :=
      List.all_eq_false.2 ⟨f, hf, by simp [hfails]⟩
    simp only [queryHolds, hall, Bool.and_false]
    cases q.qualifier == some .negated <;> rfl

/-- A query with an unknown feature and one with the wrong value, and one with a feature that is
overlooked. -/
theorem queryHolds_of_malformed_screen :
    (screen 1024 768).queryHolds ⟨some .negated, some "screen", [⟨"fancy-feature", some "3"⟩]⟩ ∧
      (screen 1024 768).queryHolds ⟨none, none, [⟨"color", none⟩, ⟨"max-color", some "red"⟩]⟩ =
        false ∧
      (screen 1024 768).queryHolds ⟨some .only, some "print", [⟨"min-resolution", none⟩]⟩ =
        (screen 1024 768).queryHolds ⟨some .only, some "print", []⟩ := by
  have hunknown : ¬ (⟨"fancy-feature", some "3"⟩ : MediaFeature).WellFormed :=
    not_wellFormed_of_unknown (by decide)
  have hvalue : ¬ (⟨"max-color", some "red"⟩ : MediaFeature).WellFormed := by
    have hname : ("color", .count) ∈ kinds := by decide
    have hlead : "max-" ∈ ["", "min-", "max-"] := by decide
    refine not_wellFormed_of_value hlead hname rfl rfl ?_
    rintro ⟨ds, hds, -, rfl | heq⟩
    · exact absurd (hds 'r' (by decide)) (by decide)
    · exact absurd (List.cons.inj (heq : ['r', 'e', 'd'] = _)).1 (by decide)
  have hbare : ¬ (⟨"min-resolution", none⟩ : MediaFeature).WellFormed :=
    not_wellFormed_of_bare (by decide) (rfl : _ = "min-" ++ "resolution") rfl
  exact ⟨queryHolds_of_malformed List.mem_cons_self hunknown,
    queryHolds_of_malformed (List.mem_cons_of_mem _ List.mem_cons_self) hvalue,
    queryHolds_of_malformed List.mem_cons_self hbare⟩

/-- The least resolution, without a value. -/
theorem not_queryHolds_of_malformed : ¬ ∀ (env : MediaEnvironment) (text : String),
    ∀ q ∈ (MediaList.ofString text).queries, ∀ f ∈ q.features, ¬ f.WellFormed →
      env.queryHolds q = false := by
  intro h
  have hread : (MediaList.ofString "(min-resolution)").queries =
      [⟨none, none, [⟨"min-resolution", none⟩]⟩] := by decide +kernel
  have hbare : ¬ (⟨"min-resolution", none⟩ : MediaFeature).WellFormed :=
    not_wellFormed_of_bare (by decide) (rfl : _ = "min-" ++ "resolution") rfl
  have hholds := h (screen 1024 768) "(min-resolution)" ⟨none, none, [⟨"min-resolution", none⟩]⟩
    (by rw [hread]; exact List.mem_cons_self) _ List.mem_cons_self hbare
  cases hholds

end MediaEnvironment
end WebStyle
