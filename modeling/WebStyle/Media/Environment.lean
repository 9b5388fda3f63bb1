import WebStyle.Media.Parser
import WebStyle.Value.Component
/-!
The device that a document is styled for, and whether media queries match it.
-/
set_option autoImplicit false

namespace WebStyle

inductive ColorScheme where
  | light
  | dark
  deriving DecidableEq, Repr

/-- A device. Sizes are in CSS pixels, and the resolution is in device pixels per CSS pixel. A
device without colors has zero bits for them. -/
structure MediaEnvironment where
  mediaType : String
  width : Float
  height : Float
  resolution : Float
  colorBits : Nat
  monochromeBits : Nat
  scheme : ColorScheme
  reducedMotion : Bool
  rootFontSize : Float
  deriving DecidableEq

namespace MediaEnvironment

/-- A color screen with a viewport of the given size. -/
def screen (width height : Float) : MediaEnvironment where
  mediaType := "screen"
  width := width
  height := height
  resolution := 1.0
  colorBits := 8
  monochromeBits := 0
  scheme := .light
  reducedMotion := false
  rootFontSize := 16.0

/-- How a feature compares with its value. -/
inductive Range where
  | exact
  | atLeast
  | atMost
  deriving DecidableEq, Repr

/-- Compares two numbers; equality allows for rounding. -/
def Range.holds (range : Range) (actual expected : Float) : Bool :=
  match range with
  | .exact => (actual - expected).abs < 1e-9
  | .atLeast => expected ≤ actual
  | .atMost => actual ≤ expected

/-- The comparison that a feature's name starts with, and the rest of the name. -/
def splitRange (name : String) : Range × String :=
  match Text.after? "min-" name, Text.after? "max-" name with
  | some rest, _ => (.atLeast, rest)
  | _, some rest => (.atMost, rest)
  | _, _ => (.exact, name)

/-- The lesser of two numbers. -/
def least (a b : Float) : Float := if b < a then b else a

def greatest (a b : Float) : Float := if a < b then b else a

/-- A length in pixels; lengths relative to a font take the one of the root. -/
def pixels? (env : MediaEnvironment) (value : String) : Option Float :=
  match Component.ofString value with
  | .number n => if n == 0.0 then some 0.0 else none
  | .length ⟨x, unit⟩ =>
    match unit with
    | .em | .rem => some (x * env.rootFontSize)
    | .ex | .ch => some (x * env.rootFontSize / 2.0)
    | .vw => some (x * env.width / 100.0)
    | .vh => some (x * env.height / 100.0)
    | .vmin => some (x * least env.width env.height / 100.0)
    | .vmax => some (x * greatest env.width env.height / 100.0)
    | unit => unit.pixels?.map (x * ·)
  | _ => none

/-- A length against the device's; without a value, whether the device's is not zero. -/
def lengthHolds (env : MediaEnvironment) (actual : Float) (value : Option String) (range : Range) :
    Bool :=
  match value with
  | none => range == .exact && 0.0 < actual
  | some v => (env.pixels? v).any (range.holds actual)

/-- A whole number of 32 bits, which may have a plus sign. -/
def count? (text : String) : Option Nat :=
  let ds := match text.toList with
    | '+' :: ds => ds
    | ds => ds
  if !ds.isEmpty && ds.all Char.isDigit && Text.digitsValue ds ≤ 4294967295 then
    some (Text.digitsValue ds)
  else none

/-- A whole number against the device's; without a value, whether the device's is not zero. -/
def countHolds (actual : Nat) (value : Option String) (range : Range) : Bool :=
  match value with
  | none => range == .exact && 0 < actual
  | some v => (count? v).any fun n => range.holds (Float.ofNat actual) (Float.ofNat n)

/-- A ratio of two numbers, or a single number. The second one must be positive. -/
def ratio? (value : String) : Option Float :=
  let read (cs : List Char) := (Binary64.ofString? (Text.trim (String.ofList cs))).map (·.toFloat)
  match Text.cutAt (· == '/') value.toList with
  | (num, none) => read num
  | (num, some den) => do
    let n ← read num
    let d ← read den
    if 0.0 < d then some (n / d) else none

/-- A resolution in dots per CSS pixel. -/
def resolution? (value : String) : Option Float :=
  match tokenize value with
  | [.dimension n unit] =>
    match Text.lower unit with
    | "dppx" | "x" => some n.toFloat
    | "dpi" => some (n.toFloat / 96.0)
    | "dpcm" => some (n.toFloat * 2.54 / 96.0)
    | _ => none
  | _ => none

/-- Whether a feature holds. One with an unknown name or a value it does not take does not. -/
def featureHolds (env : MediaEnvironment) (f : MediaFeature) : Bool :=
  let (range, name) := splitRange f.name
  let value := f.value
  match name with
  | "width" | "device-width" => env.lengthHolds env.width value range
  | "height" | "device-height" => env.lengthHolds env.height value range
  | "aspect-ratio" | "device-aspect-ratio" =>
    match value with
    | none => true
    | some v => (ratio? v).any (range.holds (env.width / env.height))
  | "color" => countHolds env.colorBits value range
  | "monochrome" => countHolds env.monochromeBits value range
  | "resolution" =>
    match value with
    | none => true
    | some v => (resolution? v).any (range.holds env.resolution)
  | _ =>
    if range != .exact then false
    else match name, value with
      | "orientation", some "portrait" => env.width ≤ env.height
      | "orientation", some "landscape" => !decide (env.width ≤ env.height)
      | "grid", none | "grid", some "0" => true
      | "prefers-color-scheme", some "light" => env.scheme == .light
      | "prefers-color-scheme", some "dark" => env.scheme == .dark
      | "prefers-reduced-motion", none | "prefers-reduced-motion", some "reduce" => env.reducedMotion
      | "prefers-reduced-motion", some "no-preference" => !env.reducedMotion
      | _, _ => false

def typeHolds (env : MediaEnvironment) (q : MediaQuery) : Bool :=
  q.mediaType.all fun type => type == "all" || type == env.mediaType

def queryHolds (env : MediaEnvironment) (q : MediaQuery) : Bool :=
  let holds := env.typeHolds q && q.features.all env.featureHolds
  if q.qualifier == some .negated then !holds else holds

/-- Whether one of the queries holds; an empty list holds of every device. -/
def holds (env : MediaEnvironment) (l : MediaList) : Bool :=
  l.queries.isEmpty || l.queries.any env.queryHolds

end MediaEnvironment
end WebStyle
