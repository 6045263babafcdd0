/-!
Runs of character codes. A character property beyond ASCII is a list of them.
-/

namespace DialogScript.Text

/-- A first and a last character code. -/
abbrev CodeRange : Type := Nat × Nat

/-- Whether a character lies in one of the runs. -/
def inRanges (ranges : List CodeRange) (c : Char) : Bool :=
  ranges.any fun r => r.1 ≤ c.toNat && c.toNat ≤ r.2

end DialogScript.Text
