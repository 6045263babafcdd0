import DialogScript.Cli.Switch
import DialogScript.Text.DecimalDigit

/-!
The words of a command line. A word that starts with a dash is a switch, given in full, by the
start of its spelling or as one of several letters; a value may follow an equals sign, and behind a
letter it is more letters. Two dashes alone make all later words plain, and negative numbers and
words with a space are plain as well.
-/

namespace DialogScript.Cli

/-- What a command line ends in before a command is run: a call for help, or a misuse. -/
inductive Usage where
  | help | misuse
  deriving DecidableEq, Repr

/-- A word as a command reads it. -/
inductive Word where
  /-- A word that stands for itself. -/
  | plain (s : String)
  /-- Two dashes: all words after it are plain. -/
  | divider
  /-- A switch, with the value after its equals sign. -/
  | switch (s : Switch) (value : Option String)
  /-- A switch by its letter, with letters after it. -/
  | letters (s : Switch) (rest : List Char)
  /-- A switch that the command does not know. -/
  | unknown
  deriving DecidableEq, Repr

namespace Word

/-- A text without a line break at its end. -/
def dropLineBreak (cs : List Char) : List Char :=
  if cs.getLast? = some '\n' then cs.dropLast else cs

/-- Whether what follows a dash makes a decimal number: digits, or a point and digits behind it. One
line break may stand at the end. -/
def isNumber (body : List Char) : Bool :=
  let isDigit (c : Char) : Bool := (Text.digitValue? c).isSome
  let number := dropLineBreak body
  match number.dropWhile isDigit with
  | [] => !number.isEmpty
  | '.' :: fraction => !fraction.isEmpty && fraction.all isDigit
  | _ => false

/-- A word with a dash in which no switch is recognized. -/
def unrecognized (word : String) (body : List Char) : Word :=
  if isNumber body || word.toList.contains ' ' then plain word else unknown

/-- The text before the first equals sign, and the one behind it. -/
def cut (cs : List Char) : String × Option String :=
  (String.ofList (cs.takeWhile (· != '=')),
    match cs.dropWhile (· != '=') with
    | [] => none
    | _ :: value => some (String.ofList value))

/-- The switch whose spelling starts with a text, if there is one and no other. -/
def abbreviated (known : Spellings) (word : String) (body : List Char) (name : String)
    (value : Option String) : Except Usage Word :=
  match known.startingWith name with
  | [] => .ok (unrecognized word body)
  | [s] => .ok (switch s value)
  | _ => .error .misuse

/-- Reads a word other than two dashes. -/
def ofText (known : Spellings) (word : String) : Except Usage Word :=
  match word.toList with
  | '-' :: c :: rest =>
    let (name, value) := cut ('-' :: c :: rest)
    match known.switch? word, value.bind fun v => (known.switch? name).map fun s => (s, v) with
    | some s, _ => .ok (switch s none)
    | none, some (s, v) => .ok (if c = '-' ∨ v = "" then switch s (some v) else letters s v.toList)
    | none, none =>
      if c = '-' then abbreviated known word (c :: rest) name value
      else
        match known.letter? c with
        | some s => .ok (letters s rest)
        | none => .ok (unrecognized word (c :: rest))
  | _ => .ok (plain word)

/-- Reads the words of a command. -/
def ofTexts (known : Spellings) : List String → Except Usage (List Word)
  | [] => .ok []
  | word :: rest =>
    if word = "--" then .ok (divider :: rest.map plain)
    else do
      let first ← ofText known word
      let others ← ofTexts known rest
      pure (first :: others)

/-- The switches that letters stand for. A letter that stands for none is a misuse. -/
def expand (known : Spellings) (s : Switch) : List Char → Except Usage (List Switch)
  | [] => .ok [s]
  | c :: rest =>
    match known.letter? c with
    | none => .error .misuse
    | some next => (s :: ·) <$> expand known next rest

end Word

end DialogScript.Cli
