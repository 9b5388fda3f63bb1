import WebStyle.Proofs.Cursor.Tokens
import WebStyle.Proofs.Cursor.Lexer
import WebStyle.Value.Component
/-!
Colors and components of values. Hexadecimal notation is cut at bytes, which is where its characters
end once all of them are digits.
-/
set_option autoImplicit false

namespace WebStyle.Cursor

/-- The text between two numbers of bytes. -/
def cutBetween (cs : List Char) (start stop : Nat) : Checked (List Char) :=
  match cut? cs start, cut? cs stop with
  | some before, some piece => slice piece before.length piece.length
  | _, _ => .error (.fault .cut)

/-- The number that hexadecimal digits make, if there are any and it fits eight bits. -/
def byteOfHex? (ds : List Char) : Option Nat :=
  if ds.isEmpty || !ds.all Text.isHexDigit then none
  else some (ds.foldl (fun n d => 16 * n + Text.hexValue d) 0) |>.filter (· < UInt8.size)

/-- The channel that a single digit stands for. -/
def singleAt (cs : List Char) (i : Nat) : Checked Nat := do
  fits UInt8.size ((← ofOption (byteOfHex? (← cutBetween cs i (i + 1)))) * 17)

/-- The channel that two digits stand for. -/
def pairAt (cs : List Char) (i : Nat) : Checked Nat := do
  ofOption (byteOfHex? (← cutBetween cs i (i + 2)))

def hexColor (hex : String) : Checked Color :=
  let cs := hex.toList
  let make (r g b a : Nat) : Color := ⟨r.toUInt8, g.toUInt8, b.toUInt8, Float.ofNat a / 255.0⟩
  if !cs.all Text.isHexDigit then .error .refused
  else match byteLength cs with
    | 3 => do .ok (make (← singleAt cs 0) (← singleAt cs 1) (← singleAt cs 2) 255)
    | 4 => do .ok (make (← singleAt cs 0) (← singleAt cs 1) (← singleAt cs 2) (← singleAt cs 3))
    | 6 => do .ok (make (← pairAt cs 0) (← pairAt cs 2) (← pairAt cs 4) 255)
    | 8 => do .ok (make (← pairAt cs 0) (← pairAt cs 2) (← pairAt cs 4) (← pairAt cs 6))
    | _ => .error .refused

/-- Makes a color of three arguments, and of an opacity if there is a fourth. -/
def ofArguments (make : Token → Token → Token → List Token → Option Color) (args : List Token) :
    Checked Color := do
  let items := Color.arguments args
  if items.length == 3 || items.length == 4 then
    ofOption (make (← index items 0) (← index items 1) (← index items 2) items[3]?.toList)
  else .error .refused

def color : List Token → Checked Color
  | [.ident name] => ofOption (Color.ofName? name)
  | [.hash hex _] => hexColor hex
  | .function name :: r =>
    if r.getLast? == some .closeParen then
      match Text.lower name with
      | "rgb" | "rgba" => ofArguments Color.ofRgb? r.dropLast
      | "hsl" | "hsla" => ofArguments Color.ofHsl? r.dropLast
      | _ => .error .refused
    else .error .refused
  | _ => .error .refused

/-- What tokens without outer blanks are, read as one component. -/
def component (ts : List Token) : Checked Component := do
  match ts with
  | [.dimension n unit] =>
    match LengthUnit.ofName? unit with
    | some unit => .ok (.length ⟨n.toFloat, unit⟩)
    | none => .ok (.other (String.ofList (← text ts)))
  | [.percentage n] => .ok (.percentage n.toFloat)
  | [.number n] => .ok (.number n.toFloat)
  | [.ident name] =>
    match ← attempt (color ts) with
    | some c =>
      if Text.lower name == "currentcolor" then .ok (.keyword (Text.lower name)) else .ok (.color c)
    | none => .ok (.keyword (Text.lower name))
  | ts =>
    match ← attempt (color ts) with
    | some c => .ok (.color c)
    | none => .ok (.other (String.ofList (← text ts)))

/-- The texts of the parts between blanks outside groups. The tokens of the current part are kept
until its end. -/
def partTexts (current : List Token) (depth : Nat) : List Token → Checked (List String)
  | [] => do if current.isEmpty then .ok [] else .ok [String.ofList (← text current)]
  | t :: ts => do
    if t.isBlank && depth == 0 then
      if current.isEmpty then partTexts [] depth ts
      else
        let part := String.ofList (← text current)
        .ok (part :: (← partTexts [] depth ts))
    else
      let depth := if t.opensGroup then depth + 1 else if t.closesGroup then depth - 1 else depth
      partTexts (current ++ [t]) depth ts

/-! ### Hexadecimal notation -/

section Hex
variable {cs : List Char} {c d : Char} {i : Nat}

theorem utf8Size_of_isHexDigit (h : Text.isHexDigit c) : c.utf8Size = 1 := by
  have hle : c.val ≤ 0x7F := by
    simp only [Text.isHexDigit, Char.isDigit, Bool.or_eq_true, Bool.and_eq_true,
      decide_eq_true_eq, Char.le_def, ge_iff_le] at h
    rcases h with (h | h) | h
    · exact UInt32.le_trans h.2 (by decide)
    · exact UInt32.le_trans h.2 (by decide)
    · exact UInt32.le_trans h.2 (by decide)
  simp [Char.utf8Size, hle]

theorem byteLength_of_isHexDigit (h : ∀ c ∈ cs, Text.isHexDigit c) : byteLength cs = cs.length := by
  induction cs with
  | nil => rfl
  | cons c cs ih =>
    rw [byteLength_cons, utf8Size_of_isHexDigit (h c List.mem_cons_self),
      ih fun c hc => h c (List.mem_cons_of_mem _ hc), List.length_cons, Nat.add_comm]

theorem cut?_of_isHexDigit (h : ∀ c ∈ cs, Text.isHexDigit c) (hi : i ≤ cs.length) :
    cut? cs i = some (cs.take i) := by
  refine cut?_eq_some_iff.2 ⟨List.take_prefix i cs, ?_⟩
  rw [byteLength_of_isHexDigit fun c hc => h c (List.mem_of_mem_take hc), List.length_take]
  exact Nat.min_eq_left hi

theorem cutBetween_eq (h : ∀ c ∈ cs, Text.isHexDigit c) {k : Nat} (hk : i + k ≤ cs.length) :
    cutBetween cs i (i + k) = .ok ((cs.drop i).take k) := by
  have hlength : (cs.take (i + k)).length = i + k := by simpa using hk
  rw [cutBetween, cut?_of_isHexDigit h (by omega), cut?_of_isHexDigit h hk]
  simp only [slice, List.length_take]
  rw [if_pos (by omega), Nat.min_eq_left (by omega), Nat.min_eq_left hk, List.take_take,
    Nat.min_self, List.drop_take, Nat.add_sub_cancel_left]

theorem singleAt_eq (h : ∀ c ∈ cs, Text.isHexDigit c) (hc : cs[i]? = some c) :
    singleAt cs i = .ok (Text.hexValue c * 17) := by
  obtain ⟨hi, rfl⟩ := List.getElem?_eq_some_iff.1 hc
  have hdigit := h cs[i] (List.getElem_mem hi)
  have hlt := hexValue_lt hdigit
  have hcut : cutBetween cs i (i + 1) = .ok [cs[i]] := by
    rw [cutBetween_eq h (by omega), List.drop_eq_getElem_cons hi]
    rfl
  have hbyte : byteOfHex? [cs[i]] = some (Text.hexValue cs[i]) := by
    simp [byteOfHex?, hdigit, Option.filter_some, UInt8.size]
    omega
  rw [singleAt, hcut, ok_bind, hbyte]
  exact if_pos (by simp only [UInt8.size]; omega)

theorem pairAt_eq (h : ∀ c ∈ cs, Text.isHexDigit c) (hc : cs[i]? = some c)
    (hd : cs[i + 1]? = some d) :
    pairAt cs i = .ok (Text.hexValue c * 16 + Text.hexValue d) := by
  obtain ⟨hi, rfl⟩ := List.getElem?_eq_some_iff.1 hc
  obtain ⟨hi', rfl⟩ := List.getElem?_eq_some_iff.1 hd
  have hc := h cs[i] (List.getElem_mem hi)
  have hd := h cs[i + 1] (List.getElem_mem hi')
  have hcut : cutBetween cs i (i + 2) = .ok [cs[i], cs[i + 1]] := by
    rw [cutBetween_eq h (by omega), List.drop_eq_getElem_cons hi, List.drop_eq_getElem_cons hi']
    rfl
  have hbyte : byteOfHex? [cs[i], cs[i + 1]] =
      some (Text.hexValue cs[i] * 16 + Text.hexValue cs[i + 1]) := by
    have := hexValue_lt hc
    have := hexValue_lt hd
    simp [byteOfHex?, hc, hd, Option.filter_some, UInt8.size]
    omega
  rw [pairAt, hcut, ok_bind, hbyte]
  rfl

end Hex

theorem hexColor_eq (hex : String) : hexColor hex = ofOption (Color.ofHex? hex) := by
  unfold hexColor Color.ofHex?
  generalize hex.toList = cs
  by_cases hall : cs.all Text.isHexDigit
  · have h : ∀ c ∈ cs, Text.isHexDigit c := List.all_eq_true.1 hall
    simp only [hall, Bool.not_true, Bool.false_eq_true, if_false, if_true,
      byteLength_of_isHexDigit h]
    rcases cs with _ | ⟨c₀, _ | ⟨c₁, _ | ⟨c₂, _ | ⟨c₃, _ | ⟨c₄, _ | ⟨c₅, _ | ⟨c₆, _ | ⟨c₇, _ |
      ⟨c₈, cs⟩⟩⟩⟩⟩⟩⟩⟩⟩
    · rfl
    · rfl
    · rfl
    · rw [singleAt_eq h (i := 0) rfl, singleAt_eq h (i := 1) rfl, singleAt_eq h (i := 2) rfl]
      rfl
    · rw [singleAt_eq h (i := 0) rfl, singleAt_eq h (i := 1) rfl, singleAt_eq h (i := 2) rfl,
        singleAt_eq h (i := 3) rfl]
      rfl
    · rfl
    · rw [pairAt_eq h (i := 0) rfl rfl, pairAt_eq h (i := 2) rfl rfl, pairAt_eq h (i := 4) rfl rfl]
      rfl
    · rfl
    · rw [pairAt_eq h (i := 0) rfl rfl, pairAt_eq h (i := 2) rfl rfl, pairAt_eq h (i := 4) rfl rfl,
        pairAt_eq h (i := 6) rfl rfl]
      rfl
    · rfl
  · simp only [hall]
    rfl

theorem ofArguments_eq (make : Token → Token → Token → List Token → Option Color)
    (args : List Token) : ofArguments make args = ofOption
      (match Color.arguments args with
        | a :: b :: c :: alpha => if 1 < alpha.length then none else make a b c alpha
        | _ => none) := by
  unfold ofArguments
  rcases Color.arguments args with _ | ⟨a, _ | ⟨b, _ | ⟨c, _ | ⟨alpha, _ | ⟨more, r⟩⟩⟩⟩⟩
  · rfl
  · rfl
  · rfl
  · rfl
  · rfl
  · simp [ofOption]

theorem color_eq (ts : List Token) : color ts = ofOption (Color.ofTokens? ts) := by
  unfold color Color.ofTokens?
  rcases ts with _ | ⟨t, r⟩
  · rfl
  · cases t with
    | ident name => cases r <;> rfl
    | hash hex isId =>
      cases r with
      | nil => exact hexColor_eq _
      | cons t r => rfl
    | function name =>
      simp only
      split
      · simp only [ofArguments_eq, Color.ofFunction?]
        generalize Text.lower name = word
        generalize Color.arguments r.dropLast = items
        by_cases hrgb : word = "rgb"
        · subst hrgb
          rfl
        · by_cases hrgba : word = "rgba"
          · subst hrgba
            rfl
          · by_cases hhsl : word = "hsl"
            · subst hhsl
              rfl
            · by_cases hhsla : word = "hsla"
              · subst hhsla
                rfl
              · rcases items with _ | ⟨a, _ | ⟨b, _ | ⟨c, alpha⟩⟩⟩ <;>
                  simp only [ite_self, ofOption]
      · rfl
    | _ => rfl

theorem component_eq (ts : List Token) : component ts = .ok (Component.ofTokens ts) := by
  unfold component
  simp only [color_eq, attempt_ofOption, text_eq, ok_bind, String.ofList_toList]
  split
  · rename_i n unit
    simp only [Component.ofTokens]
    cases LengthUnit.ofName? unit <;> rfl
  · rfl
  · rfl
  · rename_i name
    simp only [Component.ofTokens]
    cases Color.ofTokens? [.ident name] with
    | none => rfl
    | some c => simp only; split <;> rfl
  · rename_i hdimension hpercentage hnumber hident
    have hother : Component.ofTokens ts =
        match Color.ofTokens? ts with
        | some c => .color c
        | none => .other (tokensText ts) := by
      unfold Component.ofTokens
      split
      · exact (hdimension _ _ rfl).elim
      · exact (hpercentage _ rfl).elim
      · exact (hnumber _ rfl).elim
      · exact (hident _ rfl).elim
      · rfl
    rw [hother]
    split <;> rfl

theorem partTexts_eq (current : List Token) (depth : Nat) (ts : List Token) :
    partTexts current depth ts = .ok
      ((((splitOutside Token.opensGroup Token.closesGroup Token.isBlank depth ts).modifyHead
        (current ++ ·)).filter (!·.isEmpty)).map tokensText) := by
  induction ts generalizing current depth with
  | nil =>
    simp only [partTexts, text_eq, ok_bind, String.ofList_toList, splitOutside]
    cases current <;> simp
  | cons t ts ih =>
    by_cases ht : (t.isBlank && depth == 0) = true
    · have hsplit : splitOutside Token.opensGroup Token.closesGroup Token.isBlank depth (t :: ts) =
          [] :: splitOutside Token.opensGroup Token.closesGroup Token.isBlank depth ts := by
        simp only [splitOutside, ht, if_true]
      rw [hsplit, partTexts, if_pos ht]
      simp only [ih, List.nil_append, modifyHead_self, text_eq, ok_bind, String.ofList_toList]
      cases current <;> simp
    · have hinside : (t.isBlank && depth == 0) = false := Bool.eq_false_iff.2 ht
      rw [splitOutside_inside Token.opensGroup Token.closesGroup Token.isBlank hinside,
        List.modifyHead_modifyHead, partTexts, if_neg ht, ih]
      simp [Function.comp_def]

end WebStyle.Cursor
