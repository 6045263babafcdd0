import DialogScript.Data.Display
import DialogScript.Number

/-!
Places in a script, and their texts. A place has no text where its numbers have too many digits, and
plain data that stands for a span has no start.
-/

namespace DialogScript

/-- A line and a column, both from one, in a file that may be unknown. -/
structure Location where
  line : Int
  column : Int
  file : Option String

/-- The file's name and a colon; nothing for an unknown file or an empty name. -/
def Location.filePart (l : Location) : String :=
  match l.file with
  | some f => if f = "" then "" else f ++ ":"
  | none => ""

/-- Line and column. -/
def Location.position (l : Location) : Except Breakdown String := do
  let line ← Number.text l.line
  let column ← Number.text l.column
  pure (line ++ ":" ++ column)

/-- The text of a location. -/
def Location.text (l : Location) : Except Breakdown String := (l.filePart ++ ·) <$> l.position

/-- A range of a script. A tree may also give plain data where a span belongs; it is kept as it
is. -/
inductive Span where
  | between (start stop : Location)
  | unread (data : Data)

namespace Span

/-- The start of a line. -/
def atLine (line : Int) (file : Option String) : Span :=
  .between ⟨line, 1, file⟩ ⟨line, 1, file⟩

/-- Breaks down where plain data is asked for a place. -/
def noStart {α : Type} (data : Data) : Except Breakdown α := .error (.noMember data.shape "start")

/-- The text of a span: the file once, then both ends. -/
def text : Span → Except Breakdown String
  | .between start stop => do
    let first ← start.text
    let last ← stop.position
    pure (first ++ "-" ++ last)
  | .unread data => noStart data

/-- The text of the start of a span. -/
def startText : Span → Except Breakdown String
  | .between start _ => start.text
  | .unread data => noStart data

end Span

end DialogScript
