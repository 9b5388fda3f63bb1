/-!
Runs of code points.
-/
set_option autoImplicit false

namespace WebStyle.Text

/-- Whether a character lies in one of the runs, which are given by their first and last code
points. -/
def inRuns (runs : List (Nat × Nat)) (c : Char) : Bool :=
  runs.any fun run => run.1 ≤ c.toNat && c.toNat ≤ run.2

end WebStyle.Text
