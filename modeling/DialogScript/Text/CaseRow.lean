/-!
Rows of a case table: evenly spaced characters that move by the same distance.
-/

namespace DialogScript.Text

/-- Every `step`-th code from `first` to `last`, each with a partner `shift` away. -/
structure CaseRow where
  first : Nat
  last : Nat
  step : Nat
  shift : Int

/-- Whether a row has a partner for the code. -/
def CaseRow.covers (row : CaseRow) (code : Nat) : Bool :=
  row.first ≤ code && code ≤ row.last && (code - row.first) % row.step == 0

/-- The partner of a character, or the character itself where no row covers it. -/
def CaseRow.apply (rows : List CaseRow) (c : Char) : Char :=
  match rows.find? (·.covers c.toNat) with
  | some row => Char.ofNat (c.toNat + row.shift).toNat
  | none => c

end DialogScript.Text
