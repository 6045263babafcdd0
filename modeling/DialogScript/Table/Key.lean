import DialogScript.CommandKind
import DialogScript.Number

/-!
The keys of the registry: shared lists, entries that exist once, records under numbers, and the text
keys under which all of them are handed on.
-/

namespace DialogScript

/-- The lists that several commands append to. -/
inductive TrackedList where
  | requiredCheckboxes | requiredRadios | requiredSelects | invalidatedParams | subPictures
  deriving DecidableEq, Repr

namespace TrackedList

/-- Every list. -/
def all : List TrackedList :=
  [requiredCheckboxes, requiredRadios, requiredSelects, invalidatedParams, subPictures]

/-- The text key of a list. -/
def name : TrackedList → String
  | requiredCheckboxes => "REQUIRED_CHECKBOXES"
  | requiredRadios => "REQUIRED_RADIOS"
  | requiredSelects => "REQUIRED_SELECTS"
  | invalidatedParams => "INVALIDATED_PARAMS"
  | subPictures => "SUB_PICTURES"

/-- The list with a text key. -/
def ofName? (s : String) : Option TrackedList := all.find? (·.name == s)

end TrackedList

/-- The entries that exist at most once in a script. -/
inductive Singleton where
  | globalPicture | configElem | watcherIndex
  deriving DecidableEq, Repr

namespace Singleton

/-- Every entry. -/
def all : List Singleton := [globalPicture, configElem, watcherIndex]

/-- The text key of an entry. -/
def name : Singleton → String
  | globalPicture => "GLOBAL_PICTURE"
  | configElem => "CONFIG_ELEM"
  | watcherIndex => "WATCHER_INDEX"

/-- The entry with a text key. -/
def ofName? (s : String) : Option Singleton := all.find? (·.name == s)

end Singleton

/-- The kinds of record: one for each conditional and one for each assignment. -/
inductive RecordKind where
  | conditionals | assignments
  deriving DecidableEq, Repr

namespace RecordKind

/-- Both kinds, in the order in which they are handed on. -/
def all : List RecordKind := [conditionals, assignments]

/-- The text key of all records of a kind. -/
def name : RecordKind → String
  | conditionals => "IFS"
  | assignments => "ASSIGNMENTS"

/-- The kind with a text key. -/
def ofName? (s : String) : Option RecordKind := all.find? (·.name == s)

/-- What stands before the number in a record's key. -/
def stem : RecordKind → String
  | conditionals => "IF"
  | assignments => "ASSIGN"

end RecordKind

/-- A number filled up with zeros to a width, its sign counted in. -/
def paddedNumber (width : Nat) (n : Int) : String :=
  let digits := Nat.toDigits 10 n.natAbs
  let sign := if n < 0 then ['-'] else []
  String.ofList (sign ++ List.replicate (width - sign.length - digits.length) '0' ++ digits)

/-- The text of a record's key: four places for its number. -/
def RecordKind.keyText (kind : RecordKind) (id : Int) : String :=
  kind.stem ++ "_" ++ paddedNumber 4 id

/-- The text key of a record, unless its number has too many digits. -/
def RecordKind.key (kind : RecordKind) (id : Int) : Except Breakdown String := do
  Number.checkWritable [id]
  .ok (kind.keyText id)

/-- What stands before the name in the text key of an option map. -/
def optionStem : CommandKind → String
  | .userInputParam => "USER_INPUT:"
  | .radioButtonParam => "RADIOBUTTON:"
  | .userSelect => "USER_SELECT:"
  | .userSelectOptional => "USER_SELECT_OPTIONAL:"
  | .userSelectMultiple => "USER_SELECT_MULTIPLE:"
  | .userSelectMultipleOptional => "USER_SELECT_MULTIPLE_OPTIONAL:"
  | kind => kind.name ++ "_OPTIONS_"

/-- The text key of an option map. -/
def optionKey (kind : CommandKind) (name : String) : String := optionStem kind ++ name

end DialogScript
