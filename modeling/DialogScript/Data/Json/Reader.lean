import DialogScript.Data.Basic
import DialogScript.Numeral.Real

/-!
Reading JSON. Mappings keep the order of their entries; a number with a point or an exponent is a
double and any other number an integer of any size.
-/

namespace DialogScript.Data.Json

/-- The white space of JSON. -/
def isSpace (c : Char) : Bool := c = ' ' || c = '\n' || c = '\r' || c = '\t'

/-- The text after white space. -/
def skipSpace (s : List Char) : List Char := s.dropWhile isSpace

/-- The value of a hexadecimal digit. -/
def hexValue? (c : Char) : Option Nat :=
  if c.isDigit then some (c.toNat - '0'.toNat)
  else if 'a' ≤ c ∧ c ≤ 'f' then some (c.toNat - 'a'.toNat + 10)
  else if 'A' ≤ c ∧ c ≤ 'F' then some (c.toNat - 'A'.toNat + 10)
  else none

/-- The sixteen-bit unit that four hexadecimal digits stand for. -/
def unit? : List Char → Option (Nat × List Char)
  | a :: b :: c :: d :: rest => do
    let a ← hexValue? a
    let b ← hexValue? b
    let c ← hexValue? c
    let d ← hexValue? d
    some (((a * 16 + b) * 16 + c) * 16 + d, rest)
  | _ => none

/-- The character that an escape stands for, and what follows it. Two units that form a pair give
one character. -/
def escape? : List Char → Option (Char × List Char)
  | 'n' :: rest => some ('\n', rest)
  | 't' :: rest => some ('\t', rest)
  | 'r' :: rest => some ('\r', rest)
  | 'b' :: rest => some (Char.ofNat 0x08, rest)
  | 'f' :: rest => some (Char.ofNat 0x0C, rest)
  | 'u' :: rest => do
    let (high, rest) ← unit? rest
    if 0xD800 ≤ high ∧ high < 0xDC00 then
      match rest with
      | '\\' :: 'u' :: rest' =>
        let (low, rest') ← unit? rest'
        if 0xDC00 ≤ low ∧ low < 0xE000 then
          some (Char.ofNat (0x10000 + (high - 0xD800) * 0x400 + (low - 0xDC00)), rest')
        else some (Char.ofNat 0xFFFD, rest)
      | _ => some (Char.ofNat 0xFFFD, rest)
    else if 0xDC00 ≤ high ∧ high < 0xE000 then some (Char.ofNat 0xFFFD, rest)
    else some (Char.ofNat high, rest)
  | c :: rest => if c = '"' ∨ c = '\\' ∨ c = '/' then some (c, rest) else none
  | [] => none

/-- The characters of a string up to its closing quote, in reverse, and what follows. -/
def stringBody (fuel : Nat) (read : List Char) (s : List Char) :
    Option (List Char × List Char) :=
  match fuel, s with
  | fuel + 1, '\\' :: rest => do
    let (c, rest) ← escape? rest
    stringBody fuel (c :: read) rest
  | fuel + 1, c :: rest =>
    if c = '"' then some (read, rest) else stringBody fuel (c :: read) rest
  | _, _ => none

/-- A string whose opening quote has been read. -/
def string? (fuel : Nat) (s : List Char) : Option (String × List Char) :=
  (stringBody fuel [] s).map fun (read, rest) => (String.ofList read.reverse, rest)

/-- Whether a character belongs to a number. -/
def isNumberChar (c : Char) : Bool :=
  c.isDigit || c = '-' || c = '+' || c = '.' || c = 'e' || c = 'E'

/-- A number. -/
def number? (s : List Char) : Option (Data × List Char) :=
  let word := s.takeWhile isNumberChar
  let rest := s.dropWhile isNumberChar
  if word.any fun c => c = '.' || c = 'e' || c = 'E' then
    (Numeral.real? (String.ofList word)).map fun x => (.real x, rest)
  else
    let (negative, body) := Numeral.sign word
    let (ds, after) := Numeral.digitGroup body
    if ds = [] ∨ after ≠ [] then none
    else
      let n := Numeral.ofDigits ds
      some (.int (if negative then -(n : Int) else n), rest)

mutual

/-- A value; `fuel` bounds the characters that are left. -/
def value (fuel : Nat) (s : List Char) : Option (Data × List Char) :=
  match fuel with
  | 0 => none
  | fuel + 1 =>
    match skipSpace s with
    | 'n' :: 'u' :: 'l' :: 'l' :: rest => some (.null, rest)
    | 't' :: 'r' :: 'u' :: 'e' :: rest => some (.bool true, rest)
    | 'f' :: 'a' :: 'l' :: 's' :: 'e' :: rest => some (.bool false, rest)
    | '"' :: rest => (string? fuel rest).map fun (word, rest) => (.text word, rest)
    | '[' :: rest =>
      match skipSpace rest with
      | ']' :: rest => some (.list [], rest)
      | rest => (items fuel [] rest).map fun (read, rest) => (.list read.reverse, rest)
    | '\x7b' :: rest =>
      match skipSpace rest with
      | '\x7d' :: rest => some (.dict [], rest)
      | rest => (entries fuel [] rest).map fun (read, rest) => (.dict read.reverse, rest)
    | rest => number? rest

/-- The items of a list that is not empty, in reverse. -/
def items (fuel : Nat) (read : List Data) (s : List Char) : Option (List Data × List Char) :=
  match fuel with
  | 0 => none
  | fuel + 1 =>
    match value fuel s with
    | none => none
    | some (item, rest) =>
      match skipSpace rest with
      | ',' :: rest => items fuel (item :: read) rest
      | ']' :: rest => some (item :: read, rest)
      | _ => none

/-- The entries of a mapping that is not empty, in reverse. -/
def entries (fuel : Nat) (read : List (String × Data)) (s : List Char) :
    Option (List (String × Data) × List Char) :=
  match fuel with
  | 0 => none
  | fuel + 1 =>
    match skipSpace s with
    | '"' :: rest =>
      match string? fuel rest with
      | none => none
      | some (key, rest) =>
        match skipSpace rest with
        | ':' :: rest =>
          match value fuel rest with
          | none => none
          | some (entry, rest) =>
            match skipSpace rest with
            | ',' :: rest => entries fuel ((key, entry) :: read) rest
            | '\x7d' :: rest => some ((key, entry) :: read, rest)
            | _ => none
        | _ => none
    | _ => none

end

/-- Reads a text that holds one JSON value and nothing else. -/
def read? (s : String) : Option Data :=
  match value (2 * s.length + 2) s.toList with
  | some (data, rest) => if skipSpace rest = [] then some data else none
  | none => none

end DialogScript.Data.Json
