import DialogScript.Text.Blank
import DialogScript.Text.DecimalDigit

/-!
Reading integers. A numeral is a sign, digits of any script with single underscores between them,
and spacing around; more than 4300 digits are refused.
-/

namespace DialogScript.Numeral

open DialogScript.Text

/-- The blanks that a numeral may stand among: all but the four separator controls. -/
def isSpacing (c : Char) : Bool := isBlank c && !(0x1C ≤ c.toNat && c.toNat ≤ 0x1F)

/-- The digits at the front, single underscores between them, and what follows. -/
def digitGroup : List Char → List Nat × List Char
  | [] => ([], [])
  | c :: rest =>
    match digitValue? c with
    | none => ([], c :: rest)
    | some d =>
      match rest with
      | '_' :: c' :: rest' =>
        if (digitValue? c').isSome then
          let (ds, after) := digitGroup (c' :: rest')
          (d :: ds, after)
        else ([d], '_' :: c' :: rest')
      | rest =>
        let (ds, after) := digitGroup rest
        (d :: ds, after)

/-- A sign at the front, `true` for a minus, and what follows. -/
def sign : List Char → Bool × List Char
  | '-' :: rest => (true, rest)
  | '+' :: rest => (false, rest)
  | rest => (false, rest)

/-- The number that decimal digits stand for. -/
def ofDigits (ds : List Nat) : Nat := ds.foldl (fun n d => 10 * n + d) 0

/-- The most digits with which an integer is read or written. -/
def digitLimit : Nat := 4300

/-- Whether an integer has no more digits than can be written. -/
def isWritable (n : Int) : Bool := (Nat.toDigits 10 n.natAbs).length ≤ digitLimit

theorem isWritable_iff {n : Int} : isWritable n = true ↔ n.natAbs < Nat.pow 10 digitLimit := by
  have some : 0 < digitLimit := by decide
  rw [isWritable, decide_eq_true_iff, Nat.pow_eq]
  generalize digitLimit = limit at some ⊢
  exact Nat.length_toDigits_le_iff (by decide) some

/-- What a text says when an integer is expected. -/
inductive IntegerReading where
  | number (n : Int)
  | tooLong (digits : Nat)
  | malformed
  deriving DecidableEq

/-- Reads an integer from a text without spacing. -/
def readInteger (s : List Char) : IntegerReading :=
  let (negative, body) := sign s
  let (ds, rest) := digitGroup body
  if ds = [] ∨ rest.head? = some '_' then .malformed
  else if digitLimit < ds.length then .tooLong ds.length
  else if rest = [] then .number (if negative then -(ofDigits ds : Int) else ofDigits ds)
  else .malformed

/-- Reads an integer with spacing around it. -/
def integer (s : String) : IntegerReading := readInteger (trimBy isSpacing s.toList)

/-- Reads an integer with any blanks around it. -/
def integer? (s : String) : Option Int :=
  match integer (trim s) with
  | .number n => some n
  | _ => none

end DialogScript.Numeral
