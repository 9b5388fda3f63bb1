import WebStyle.ObjectModel.Basic
/-!
What sheets and rules own, and how it is freed: a sheet or rule with all that it owns at any depth,
each one before what it owns.
-/
set_option autoImplicit false

namespace WebStyle

/-- A sheet or a rule. -/
inductive ModelPart where
  | sheet (s : SheetId)
  | rule (r : RuleId)
  deriving DecidableEq, Repr

/-- A sheet owns its rules and, after them, those that were deleted from it. -/
def StyleSheet.owned (s : StyleSheet) : List ModelPart :=
  (s.rules ++ s.deleted).map .rule

/-- A media rule owns the rules inside it, and an import the sheet that was loaded for it. -/
def RuleContent.owned : RuleContent → List ModelPart
  | .media _ rules => rules.map .rule
  | .importing _ _ (some s) => [.sheet s]
  | _ => []

namespace ObjectModel

/-- The number of live sheets and rules, and of what they own. -/
def weight (m : ObjectModel) : Nat :=
  m.sheets.total (fun s => s.owned.length + 1) + m.rules.total fun r => r.content.owned.length + 1

def eraseSheet (m : ObjectModel) (s : SheetId) : ObjectModel :=
  { m with sheets := m.sheets.erase s }

def eraseRule (m : ObjectModel) (r : RuleId) : ObjectModel := { m with rules := m.rules.erase r }

theorem weight_eraseSheet {m : ObjectModel} {s : SheetId} {sheet : StyleSheet}
    (h : m.sheet? s = some sheet) :
    (m.eraseSheet s).weight + (sheet.owned.length + 1) = m.weight := by
  have := Slots.total_erase (fun s : StyleSheet => s.owned.length + 1) h
  simp only [weight, eraseSheet]
  omega

theorem weight_eraseRule {m : ObjectModel} {r : RuleId} {rule : Rule} (h : m.rule? r = some rule) :
    (m.eraseRule r).weight + (rule.content.owned.length + 1) = m.weight := by
  have := Slots.total_erase (fun r : Rule => r.content.owned.length + 1) h
  simp only [weight, eraseRule]
  omega

/-- Frees sheets and rules with all that they own. Stale handles are passed over, so that nothing is
freed twice even where sheets import each other. -/
def free (m : ObjectModel) : List ModelPart → ObjectModel
  | [] => m
  | .sheet s :: rest =>
    match h : m.sheet? s with
    | none => m.free rest
    | some sheet =>
      have := weight_eraseSheet h
      (m.eraseSheet s).free (sheet.owned ++ rest)
  | .rule r :: rest =>
    match h : m.rule? r with
    | none => m.free rest
    | some rule =>
      have := weight_eraseRule h
      (m.eraseRule r).free (rule.content.owned ++ rest)
  termination_by parts => m.weight + parts.length
  decreasing_by all_goals simp only [List.length_append, List.length_cons]; omega

end ObjectModel
end WebStyle
