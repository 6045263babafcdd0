import DialogScript.Data.Display
import DialogScript.Number
import DialogScript.Numeral.Real
import DialogScript.Value.Basic

/-!
Reading numbers and items from data of any shape. A text may stand for a number, a truth value for
one or zero, and a text or a mapping for the list of its characters or keys.
-/

namespace DialogScript.Data

/-- Reads an integer: a double loses its fraction, a text is read as a numeral. -/
def toInteger : Data → Except Breakdown Int
  | int n => .ok n
  | bool b => .ok (Value.ofTruth b)
  | real x => Number.truncate x
  | text s =>
    match Numeral.integer s with
    | .number n => .ok n
    | .tooLong digits => .error (.longInteger digits)
    | .malformed => .error (.malformedInteger s)
  | data => .error (.notAnInteger data.shape)

/-- Reads a double: an integer is rounded, a text is read as a numeral. -/
def toReal : Data → Except Breakdown Float
  | int n => Number.toDouble n
  | bool b => Number.toDouble (Value.ofTruth b)
  | real x => .ok x
  | text s =>
    match Numeral.real? s with
    | some x => .ok x
    | none => .error (.malformedReal s)
  | data => .error (.notAReal data.shape)

/-- The items of a list, the characters of a text or the keys of a mapping; data that counts as
absent has none. -/
def toItems (data : Data) : Except Breakdown (List Data) :=
  if !data.isFilled then .ok []
  else match data with
    | list items => .ok items
    | text s => .ok (s.toList.map fun c => text (String.singleton c))
    | dict entries => .ok (entries.map fun e => text e.1)
    | data => .error (.notIterable data.shape)

end DialogScript.Data
