import WebStyle.Sheet.Declaration
/-!
Substitution of references to custom properties. A reference names a property and may give a
fallback for it; a text with a reference that has neither value nor fallback has no substitution.
-/
set_option autoImplicit false

namespace WebStyle
namespace Substitution

/-- A token of a value, or a reference with its arguments. -/
inductive Piece where
  | plain (t : Token)
  | reference (args : List Token)
  deriving DecidableEq, Repr

/-- A function or a parenthesis opens a group. -/
def opensGroup : Token → Bool
  | .function _ | .openParen => true
  | _ => false

/-- The arguments of a function and what follows it. One that is not closed takes up the rest. -/
def splitArguments (ts : List Token) : List Token × List Token :=
  (splitAtClose? opensGroup (· == .closeParen) 0 ts).getD (ts, [])

theorem splitArguments_length_le (ts : List Token) : (splitArguments ts).2.length ≤ ts.length := by
  unfold splitArguments
  cases h : splitAtClose? opensGroup (· == .closeParen) 0 ts with
  | none => simp
  | some p => have := splitAtClose?_length_lt h; simp; omega

def startsReference : Token → Bool
  | .function name => Text.sameIgnoringCase name "var"
  | _ => false

/-- The pieces of a value. -/
def pieces : List Token → List Piece
  | [] => []
  | t :: r =>
    if startsReference t then
      have : (splitArguments r).2.length < r.length + 1 :=
        Nat.lt_succ_of_le (splitArguments_length_le r)
      .reference (splitArguments r).1 :: pieces (splitArguments r).2
    else .plain t :: pieces r
  termination_by ts => ts.length

/-- The name in a reference, and its fallback if it has one. -/
def readReference? (args : List Token) : Option (String × Option (List Token)) :=
  match skipBlanks args with
  | .ident name :: r =>
    if isCustomName name then
      match skipBlanks r with
      | .comma :: fallback => some (name, some fallback)
      | _ => some (name, none)
    else none
  | _ => none

section
variable {m : Type → Type} [Monad m]

/-- Joins the texts of pieces in order. The first one without a text ends it. -/
def joinM {α : Type} (text : α → m (Option (List Char))) : List α → m (Option (List Char))
  | [] => pure (some [])
  | p :: ps => do
    match ← text p with
    | none => pure none
    | some cs =>
      match ← joinM text ps with
      | none => pure none
      | some more => pure (some (cs ++ more))

/-- The canonical text of a value with its references replaced. Fallbacks may nest as deep as the
fuel goes. -/
def substituteFuelM (lookup : String → m (Option String)) : Nat → String → m (Option String)
  | 0, _ => pure none
  | fuel + 1, text => do
    let pieceText (p : Piece) : m (Option (List Char)) :=
      match p with
      | .plain t => pure (some t.chars)
      | .reference args =>
        match readReference? args with
        | none => pure none
        | some (name, fallback) => do
          match ← lookup name with
          | some value => pure (some (value.toList ++ [' ']))
          | none =>
            match fallback with
            | none => pure none
            | some ts => do
              let value ← substituteFuelM lookup fuel (tokensText ts)
              pure (value.map (·.toList ++ [' ']))
    let joined ← joinM pieceText (pieces (tokenize text))
    pure (joined.map fun cs => tokensText (tokenize (String.ofList cs)))

/-- The canonical text of a value with its references replaced by what `lookup` gives for them, in
order. A fallback has fewer parentheses than the value it stands in, so that it never nests deeper
than the value is long. -/
def substituteM (lookup : String → m (Option String)) (text : String) : m (Option String) :=
  substituteFuelM lookup (text.length + 1) text

end

end Substitution

/-- The canonical text of a value with its references replaced. -/
def substitute? (lookup : String → Option String) (text : String) : Option String :=
  Id.run (Substitution.substituteM (fun name => pure (lookup name)) text)

end WebStyle
