import DialogScript.Data.Basic
import DialogScript.Decimal.Notation
import DialogScript.Text.Quoted

/-!
Writing data as JSON in ASCII: on one line, or indented by two blanks a level.
-/

namespace DialogScript.Data.Json

/-- A sixteen-bit unit as an escape. -/
def unitEscape (n : Nat) : List Char := '\\' :: 'u' :: Text.hexText 4 n

/-- One character inside a JSON string. -/
def escapeChar (c : Char) : List Char :=
  if c = '"' then ['\\', '"']
  else if c = '\\' then ['\\', '\\']
  else if c = '\n' then ['\\', 'n']
  else if c = '\r' then ['\\', 'r']
  else if c = '\t' then ['\\', 't']
  else if c.toNat = 0x0C then ['\\', 'f']
  else if c.toNat = 0x08 then ['\\', 'b']
  else if 0x20 ≤ c.toNat ∧ c.toNat < 0x7F then [c]
  else if c.toNat < 0x10000 then unitEscape c.toNat
  else
    let n := c.toNat - 0x10000
    unitEscape (0xD800 + n / 0x400) ++ unitEscape (0xDC00 + n % 0x400)

/-- A JSON string. -/
def string (s : String) : String :=
  String.ofList ('"' :: s.toList.flatMap escapeChar ++ ['"'])

/-- A double, with the words for what JSON proper cannot write. -/
def real (x : Float) : String :=
  if x.isNaN then "NaN"
  else if x.isInf then (if x < 0.0 then "-Infinity" else "Infinity")
  else Decimal.natural x

/-- A truth value. -/
def truth (b : Bool) : String := if b then "true" else "false"

/-- A new line, indented to a depth. -/
def newline (depth : Nat) : String := "\n" ++ String.ofList (List.replicate (2 * depth) ' ')

mutual

/-- Data on one line. -/
def compact : Data → String
  | .null => "null"
  | .bool b => truth b
  | .int n => toString n
  | .real x => real x
  | .text s => string s
  | .list items => "[" ++ ",".intercalate (compactItems items) ++ "]"
  | .dict entries => "\x7b" ++ ",".intercalate (compactEntries entries) ++ "\x7d"

/-- Each item of a list on one line. -/
def compactItems : List Data → List String
  | [] => []
  | item :: rest => compact item :: compactItems rest

/-- Each entry of a mapping on one line. -/
def compactEntries : List (String × Data) → List String
  | [] => []
  | (key, value) :: rest => (string key ++ ":" ++ compact value) :: compactEntries rest

end

mutual

/-- Data over several lines, its own line being at `depth`. -/
def indented (depth : Nat) : Data → String
  | .null => "null"
  | .bool b => truth b
  | .int n => toString n
  | .real x => real x
  | .text s => string s
  | .list [] => "[]"
  | .list (item :: rest) =>
    let lines := indented (depth + 1) item :: indentedItems (depth + 1) rest
    "[" ++ newline (depth + 1) ++ ("," ++ newline (depth + 1)).intercalate lines ++ newline depth
      ++ "]"
  | .dict [] => "\x7b\x7d"
  | .dict ((key, value) :: rest) =>
    let lines := (string key ++ ": " ++ indented (depth + 1) value)
      :: indentedEntries (depth + 1) rest
    "\x7b" ++ newline (depth + 1) ++ ("," ++ newline (depth + 1)).intercalate lines
      ++ newline depth ++ "\x7d"

/-- Each item of a list at `depth`. -/
def indentedItems (depth : Nat) : List Data → List String
  | [] => []
  | item :: rest => indented depth item :: indentedItems depth rest

/-- Each entry of a mapping at `depth`. -/
def indentedEntries (depth : Nat) : List (String × Data) → List String
  | [] => []
  | (key, value) :: rest =>
    (string key ++ ": " ++ indented depth value) :: indentedEntries depth rest

end

end DialogScript.Data.Json
