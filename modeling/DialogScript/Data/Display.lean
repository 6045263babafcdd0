import DialogScript.Data.Basic
import DialogScript.Decimal.Notation
import DialogScript.Number
import DialogScript.Text.Quoted

/-!
How data is shown in messages: texts inside data are quoted, a text on its own is not. Data can be
shown if none of its integers has too many digits.
-/

namespace DialogScript.Data

/-- Pieces with a comma between them. -/
def commaSeparated (pieces : List String) : String := ", ".intercalate pieces

/-- The word for a truth value. -/
def truthText (b : Bool) : String := if b then "True" else "False"

mutual

/-- Data with its texts quoted. -/
def quoted : Data → String
  | null => "None"
  | bool b => truthText b
  | int n => toString n
  | real x => Decimal.natural x
  | text s => Text.quoted s
  | list items => "[" ++ commaSeparated (quotedItems items) ++ "]"
  | dict entries => "\x7b" ++ commaSeparated (quotedEntries entries) ++ "\x7d"

/-- The items of a list, each quoted. -/
def quotedItems : List Data → List String
  | [] => []
  | item :: rest => quoted item :: quotedItems rest

/-- The entries of a mapping, keys and values quoted. -/
def quotedEntries : List (String × Data) → List String
  | [] => []
  | (key, value) :: rest => (Text.quoted key ++ ": " ++ quoted value) :: quotedEntries rest

end

mutual

/-- Whether all integers in data can be written. -/
def isWritable : Data → Bool
  | int n => Numeral.isWritable n
  | list items => itemsWritable items
  | dict entries => entriesWritable entries
  | _ => true

/-- Whether all integers in the items of a list can be written. -/
def itemsWritable : List Data → Bool
  | [] => true
  | item :: rest => isWritable item && itemsWritable rest

/-- Whether all integers in the entries of a mapping can be written. -/
def entriesWritable : List (String × Data) → Bool
  | [] => true
  | (_, value) :: rest => isWritable value && entriesWritable rest

end

/-- Data on its own: a text as it is, all else quoted. -/
def plain : Data → String
  | text s => s
  | data => quoted data

/-- Data as a text, if it can be shown. -/
def toText (data : Data) : Except Breakdown String :=
  if data.isWritable then .ok data.plain else .error .longIntegerText

end DialogScript.Data
