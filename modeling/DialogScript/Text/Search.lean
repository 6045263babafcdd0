/-!
Searching and comparing texts by their characters.
-/

namespace DialogScript.Text

/-- The first place at which `needle` stands in a text. -/
def find? (needle : List Char) : List Char → Option Nat
  | [] => if needle.isEmpty then some 0 else none
  | c :: rest => if needle.isPrefixOf (c :: rest) then some 0 else (find? needle rest).map (· + 1)

/-- The first place of `needle` in `s`, or minus one. -/
def position (needle s : String) : Int :=
  match find? needle.toList s.toList with
  | some i => i
  | none => -1

/-- Minus one, zero or one as the first text comes before, with or after the second. -/
def compare (a b : String) : Int := if a < b then -1 else if b < a then 1 else 0

end DialogScript.Text
