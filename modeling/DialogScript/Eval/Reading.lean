import DialogScript.Builtin.Apply
import DialogScript.Eval.Basic
import DialogScript.Path
import DialogScript.Tree.Expr

/-!
The readings of an expression. An expression has a static type, which is found without evaluating
it where that is possible; a value; a stored value, which is the one that an access expression
refers to; and it can be read as an integer, a double or a text, each of which is nothing for an
empty slot. The readings of an expression are built from those of its parts.
-/

namespace DialogScript

/-- The ways to read an expression. -/
structure Reading where
  type : Eval ValueType
  value : Eval Value
  stored : Eval Value
  integer : Eval (Option Int)
  double : Eval (Option Float)
  text : Eval (Option String)

/-- An argument of a call: where it stands, and how it is read. -/
structure Argument where
  span : Option Span
  reading : Reading

/-- An operand of a binary expression: its form, and how it is read. -/
structure Operand where
  expr : Expr
  reading : Reading

namespace Reading

/-! ## Reading values -/

/-- Fails for an expression that has no value of a sort. One without a text breaks down. -/
def notEvaluable {α : Type} (e : Expr) (target : String) : Eval α := do
  let text ← Eval.orBreak e.text
  Eval.fail (.notEvaluable text target) e.span

/-- A value as an integer: doubles lose their fraction. -/
def integerOf (e : Expr) : Value → Eval (Option Int)
  | .integer n => pure (some n)
  | .bool b => pure (some (Value.ofTruth b))
  | .double x => some <$> Eval.orBreak (Number.truncate x)
  | _ => notEvaluable e "INTEGER"

/-- A value as a double: truth values are no doubles. -/
def doubleOf (e : Expr) : Value → Eval (Option Float)
  | .integer n => some <$> Eval.orBreak (Number.toDouble n)
  | .double x => pure (some x)
  | _ => notEvaluable e "DOUBLE"

/-- A value as a text: only scalars have one. -/
def textOf (e : Expr) (v : Value) : Eval (Option String) := do
  match ← Eval.orBreak v.scalarText? with
  | some s => pure (some s)
  | none => notEvaluable e "STRING"

/-- The readings of an expression that is read through its value throughout. -/
def ofValue (e : Expr) (type : Eval ValueType) (value : Eval Value) : Reading where
  type := type
  value := value
  stored := value
  integer := value >>= integerOf e
  double := value >>= doubleOf e
  text := value >>= textOf e

/-! ## Literals and names -/

/-- An empty slot: nothing as a number or a text, and no type or value. -/
def absent : Reading where
  type := Eval.fail .missingExpression none
  value := Eval.fail .missingExpression none
  stored := Eval.fail .missingExpression none
  integer := pure none
  double := pure none
  text := pure none

/-- The value of a literal. -/
def literalValue : Literal → Value
  | .integer n => .integer n.toInt
  | .double x => .double x
  | .string s => .string s
  | .bool b => .bool b

/-- A literal. -/
def literal (span : Option Span) (l : Literal) : Reading :=
  ofValue (.literal span l) (pure (literalValue l).type) (pure (literalValue l))

/-- A named constant. -/
def constant (span : Option Span) (name : String) (x : Float) : Reading :=
  ofValue (.constant span name x) (pure .double) (pure (.double x))

/-- A name that looks like a path is taken for a text where it is not bound. -/
def unbound {α : Type} (span : Option Span) (name : String) (asPath : α) : Eval α :=
  if Path.looksLikePath name then do
    Eval.warn (.pathName name) span
    pure asPath
  else Eval.fail (.undefined name) span

/-- The value bound to a name. -/
def boundValue (span : Option Span) (name : String) : Eval Value := do
  match ← Eval.lookup name with
  | some v => pure v
  | none => Eval.fail (.undefined name) span

/-- A name. As a text it is its own name where it has no scalar value. -/
def named (span : Option Span) (name : String) : Reading where
  type := do
    match ← Eval.lookup name with
    | some v => pure v.type
    | none => unbound span name .string
  value := do
    match ← Eval.lookup name with
    | some v => pure v
    | none => unbound span name (.string name)
  stored := boundValue span name
  integer := boundValue span name >>= integerOf (.named span name)
  double := boundValue span name >>= doubleOf (.named span name)
  text := do
    match ← Eval.lookup name with
    | some v => do
      let s ← Eval.orBreak v.scalarText?
      pure (some (s.getD name))
    | none => pure (some name)

/-! ## Operators -/

/-- The value of a negation. -/
def negated (span : Option Span) (op : Operator) : Value → Eval Value
  | .integer n =>
    if op = .minus then pure (.integer (-n)) else Eval.fail (.invalidOperand op .integer) span
  | .double x =>
    if op = .minus then pure (.double (-x)) else Eval.fail (.invalidOperand op .double) span
  | v => Eval.fail (.invalidOperand op v.type) span

/-- A unary expression. -/
def unary (span : Option Span) (op : Operator) (operand : Operand) : Reading :=
  let e := Expr.unary span op operand.expr
  let type := do
    let t ← operand.reading.type
    if op = .minus ∧ t.isNumeric then pure t else Eval.fail (.invalidOperand op t) span
  let value := operand.reading.value >>= negated span op
  let general := ofValue e type value
  { general with
    integer := if op = .minus then do
        match ← operand.reading.integer with
        | some n => pure (some (-n))
        | none => Eval.orBreak (.error .missingNegation)
      else general.integer
    double := if op = .minus then do
        match ← operand.reading.double with
        | some x => pure (some (-x))
        | none => Eval.orBreak (.error .missingNegation)
      else general.double }

/-- Whether an expression counts as a text in a concatenation: a string literal, a name that is
bound to a string or to nothing, or a sum with such a part. -/
def isText (lookup : String → Option Value) : Expr → Bool
  | .literal _ (.string _) => true
  | .named _ name =>
    match lookup name with
    | some v => v.type == .string
    | none => true
  | .binary _ left .plus right => isText lookup left || isText lookup right
  | _ => false

/-- Whether an expression is a literal that a concatenation refuses. -/
def isNumberLiteral : Expr → Bool
  | .literal _ (.string _) => false
  | .literal _ _ => true
  | _ => false

/-- The text of an operand of a concatenation. -/
def concatText (operand : Operand) : Eval String :=
  if isNumberLiteral operand.expr then
    notEvaluable operand.expr "STRING operand of '+'"
  else do
    let s ← operand.reading.text
    pure (s.getD "")

/-- The texts of two operands joined. -/
def concatenated (left right : Operand) : Eval String := do
  let a ← concatText left
  let b ← concatText right
  pure (a ++ b)

/-- The type of a binary expression from the types of its operands. -/
def binaryType (span : Option Span) (op : Operator) (left right : ValueType) : Eval ValueType :=
  let refused := Eval.fail (.invalidOperands op left right) span
  if op = .plus ∧ (left = .string ∨ right = .string) then pure .string
  else if op.isArithmetic then
    if left.isNumeric && right.isNumeric then
      pure (if op = .slash ∨ left = .double ∨ right = .double then .double else .integer)
    else refused
  else if op.isLogical then
    if left.isCondition && right.isCondition then pure .bool else refused
  else if left ≠ right then refused
  else if op.isOrdering && !left.isNumeric then refused
  else if !left.isScalar then refused
  else pure .bool

/-- An arithmetic operation on two numbers. Both are widened first, so that integers beyond the
largest double break down even where the result is an integer. -/
def arithmetic (span : Option Span) (op : Operator) (left right : Value) : Eval Value := do
  let a ← Eval.orBreak left.asNumber
  let b ← Eval.orBreak right.asNumber
  match op with
  | .slash => if b == 0.0 then Eval.fail .divisionByZero span else pure (.double (a / b))
  | op =>
    match op, left, right with
    | .plus, .integer m, .integer n => pure (.integer (m + n))
    | .minus, .integer m, .integer n => pure (.integer (m - n))
    | _, .integer m, .integer n => pure (.integer (m * n))
    | .plus, _, _ => pure (.double (a + b))
    | .minus, _, _ => pure (.double (a - b))
    | _, _, _ => pure (.double (a * b))

/-- Whether two values are equal: strings exactly, integers and truth values as integers, and where
there is a double, up to the tolerance. -/
def equal (span : Option Span) (op : Operator) (left right : Value) : Eval Bool :=
  let refused := Eval.fail (.invalidOperands op left.type right.type) span
  match left, right with
  | .string a, .string b => pure (a == b)
  | .string _, _ | _, .string _ => refused
  | left, right =>
    if left.type.isScalar && right.type.isScalar then
      if left.type = .double ∨ right.type = .double then do
        let a ← Eval.orBreak left.asNumber
        let b ← Eval.orBreak right.asNumber
        let epsilon ← Eval.epsilon
        pure ((a - b).abs <= epsilon)
      else do
        let a ← Eval.orBreak left.asInteger
        let b ← Eval.orBreak right.asInteger
        pure (a == b)
    else refused

/-- The order of two doubles up to a tolerance. -/
def orderedDoubles (op : Operator) (a b epsilon : Float) : Bool :=
  match op with
  | .lt => a < b - epsilon
  | .gt => a > b + epsilon
  | .le => a <= b + epsilon
  | _ => a >= b - epsilon

/-- The order of two integers. -/
def orderedIntegers (op : Operator) (a b : Int) : Bool :=
  match op with
  | .lt => a < b
  | .gt => b < a
  | .le => a ≤ b
  | _ => b ≤ a

/-- Whether two numbers or truth values stand in an order. -/
def ordered (span : Option Span) (op : Operator) (left right : Value) : Eval Bool :=
  if left.type.isCondition && right.type.isCondition then
    if left.type = .double ∨ right.type = .double then do
      let a ← Eval.orBreak left.asNumber
      let b ← Eval.orBreak right.asNumber
      let epsilon ← Eval.epsilon
      pure (orderedDoubles op a b epsilon)
    else do
      let a ← Eval.orBreak left.asInteger
      let b ← Eval.orBreak right.asInteger
      pure (orderedIntegers op a b)
  else Eval.fail (.invalidOperands op left.type right.type) span

/-- The value of a logical connective. The right operand is evaluated only where it decides. -/
def logical (op : Operator) (left right : Eval Value) : Eval Value := do
  let a ← left
  if op = .and ∧ !a.isTruthy then pure (.bool false)
  else if op = .or ∧ a.isTruthy then pure (.bool true)
  else do
    let b ← right
    pure (.bool b.isTruthy)

/-- The value of a binary expression. Operands of a concatenation are read again as texts. -/
def binaryValue (span : Option Span) (op : Operator) (left right : Operand) : Eval Value :=
  if op.isLogical then logical op left.reading.value right.reading.value
  else do
    let a ← left.reading.value
    let b ← right.reading.value
    if op = .plus ∧ (a.type = .string ∨ b.type = .string) then
      Value.string <$> concatenated left right
    else if op.isArithmetic then
      if a.type.isNumeric && b.type.isNumeric then arithmetic span op a b
      else Eval.fail (.invalidOperands op a.type b.type) span
    else if op.isEquality then do
      let same ← equal span op a b
      pure (.bool (if op = .eq then same else !same))
    else Value.bool <$> ordered span op a b

/-- What a missing operand meets. -/
def shapeOf {α : Type} (present : OperandShape) : Option α → OperandShape
  | some _ => present
  | none => .nothing

/-- An arithmetic operation on integers; division goes toward zero. -/
def integerOperation (span : Option Span) (op : Operator) :
    Option Int → Option Int → Eval (Option Int)
  | some a, some b =>
    match op with
    | .plus => pure (some (a + b))
    | .minus => pure (some (a - b))
    | .star => pure (some (a * b))
    | _ => if b = 0 then Eval.fail .divisionByZero span else pure (some (a.tdiv b))
  | a, b =>
    if op = .slash then
      if b = some 0 then Eval.fail .divisionByZero span else Eval.orBreak (.error .missingMagnitude)
    else Eval.orBreak (.error (.missingOperand op (shapeOf .integer a) (shapeOf .integer b)))

/-- An arithmetic operation on doubles. -/
def doubleOperation (span : Option Span) (op : Operator) :
    Option Float → Option Float → Eval (Option Float)
  | some a, some b =>
    match op with
    | .plus => pure (some (a + b))
    | .minus => pure (some (a - b))
    | .star => pure (some (a * b))
    | _ => if b == 0.0 then Eval.fail .divisionByZero span else pure (some (a / b))
  | a, b =>
    if op = .slash ∧ (b.any (· == 0.0)) then Eval.fail .divisionByZero span
    else Eval.orBreak (.error (.missingOperand op (shapeOf .double a) (shapeOf .double b)))

/-- A binary expression. -/
def binary (span : Option Span) (left : Operand) (op : Operator) (right : Operand) : Reading :=
  let e := Expr.binary span left.expr op right.expr
  let type := do
    let a ← left.reading.type
    let b ← right.reading.type
    binaryType span op a b
  let general := ofValue e type (binaryValue span op left right)
  { general with
    integer := if op.isArithmetic then do
        let a ← left.reading.integer
        let b ← right.reading.integer
        integerOperation span op a b
      else general.integer
    double := if op.isArithmetic then do
        let a ← left.reading.double
        let b ← right.reading.double
        doubleOperation span op a b
      else general.double
    text := do
      let s ← Eval.scope
      if op = .plus ∧ (isText s.lookup left.expr ∨ isText s.lookup right.expr) then
        some <$> concatenated left right
      else general.text }

/-! ## Calls -/

/-- The signature of a function, if it takes as many arguments. -/
def signature (span : Option Span) (name : String) (args : List Argument) : Eval Builtin :=
  match Builtin.ofName? name with
  | none => Eval.fail (.unknownFunction name) span
  | some f =>
    if args.length = f.signature.arity then pure f
    else Eval.fail (.functionArity f.name f.signature.arity args.length) span

/-- Checks the types of arguments against those of the parameters from one place on. -/
def checkArguments (function : String) (place : Nat) :
    List (Argument × ValueType) → Eval Unit
  | [] => pure ()
  | (arg, expected) :: rest => do
    let found ← arg.reading.type
    if expected.accepts found then checkArguments function (place + 1) rest
    else Eval.fail (.argumentType function place expected found) arg.span

/-- A value as an argument of a type: an integer is widened to a double. -/
def widened (function : String) (place : Nat) (span : Option Span) (expected : ValueType)
    (v : Value) : Eval Value :=
  match v, expected with
  | .integer n, .double => Value.double <$> Eval.orBreak (Number.toDouble n)
  | v, expected =>
    if v.type = expected then pure v
    else Eval.fail (.argumentType function place expected v.type) span

/-- The values of arguments for the parameters from one place on. -/
def argumentValues (function : String) (place : Nat) :
    List (Argument × ValueType) → Eval (List Value)
  | [] => pure []
  | (arg, expected) :: rest => do
    let v ← arg.reading.value
    let v ← widened function place arg.span expected v
    let others ← argumentValues function (place + 1) rest
    pure (v :: others)

/-- Arguments beside the types of their parameters. -/
def matched (f : Builtin) (args : List Argument) : List (Argument × ValueType) :=
  args.zip (f.signature.params.map Prod.snd)

/-- What a built-in function gives; a refusal is a problem at the call. -/
def callResult (span : Option Span) : Builtin.CallResult → Eval Value
  | .ok v => pure v
  | .error (.refused e) => Eval.fail (.refused e) span
  | .error (.broken b) => Eval.orBreak (.error b)

/-- A call of a built-in function. -/
def call (span : Option Span) (name : String) (exprs : List Expr) (args : List Argument) :
    Reading :=
  ofValue (.call span name exprs)
    (do
      let f ← signature span name args
      checkArguments f.name 0 (matched f args)
      pure f.signature.returns)
    (do
      let f ← signature span name args
      let values ← argumentValues f.name 0 (matched f args)
      callResult span (f.call values))

/-! ## Containers -/

/-- Fails for an index that is outside an array. An index with too many digits breaks down, and so
does an array without a text. -/
def outOfRange (span : Option Span) (base : Expr) (i : Int) : Eval Value := do
  let text ← Eval.orBreak base.text
  Eval.orBreak (Number.checkWritable [i])
  Eval.fail (.indexOutOfRange text i) span

/-- The element at an index. -/
def element (span : Option Span) (base : Expr) (items : List Value) (i : Int) : Eval Value :=
  if 0 ≤ i then
    match items[i.toNat]? with
    | some v => pure v
    | none => outOfRange span base i
  else outOfRange span base i

/-- The stored element that an index refers to. -/
def elementValue (span : Option Span) (base index : Operand) : Eval Value := do
  let array ← base.reading.stored
  match array with
  | .array items => do
    let i ← index.reading.value
    match i with
    | .integer i => element span base.expr items i
    | other => Eval.fail (.typeMismatch "array index" "INTEGER" other.type.name) span
  | other => Eval.fail (.typeMismatch "indexed value" "ARRAY" other.type.name) span

/-- The type of an indexed element: arrays are taken to hold values of one type, so the first
element decides. -/
def elementType (span : Option Span) (base index : Operand) : Eval ValueType := do
  let baseType ← base.reading.type
  if baseType ≠ .array then
    Eval.fail (.typeMismatch "indexed value" "ARRAY" baseType.name) span
  else do
    let indexType ← index.reading.type
    if indexType ≠ .integer then
      Eval.fail (.typeMismatch "array index" "INTEGER" indexType.name) span
    else do
      let array ← base.reading.stored
      let items ← Eval.orBreak array.asArray
      match items with
      | [] => Eval.fail (.notEvaluable "element type of empty array" "a typed value") span
      | first :: _ => pure first.type

/-- An element of an array. -/
def index (span : Option Span) (base index : Operand) : Reading :=
  ofValue (.index span base.expr index.expr) (elementType span base index)
    (elementValue span base index)

/-- The value under a key; an entry without a value counts as missing. -/
def memberValue (span : Option Span) (base : Expr) (key : String)
    (entries : List (String × Option Value)) : Eval Value :=
  match (entries.lookup key).join with
  | some v => pure v
  | none => do
    let text ← Eval.orBreak base.text
    Eval.fail (.missingMember text key) span

/-- An entry of a map. -/
def entry (span : Option Span) (map : Operand) (key : String) : Reading :=
  let stored := do
    match ← map.reading.stored with
    | .map entries => memberValue span map.expr key entries
    | other => Eval.fail (.typeMismatch "map lookup" "MAP" other.type.name) span
  ofValue (.entry span map.expr key) (Value.type <$> stored) stored

/-- A member of a structure. -/
def member (span : Option Span) (struct : Operand) (name : String) : Reading :=
  let stored := do
    match ← struct.reading.stored with
    | .struct members => memberValue span struct.expr name members
    | other => Eval.fail (.typeMismatch "member access" "STRUCTURE" other.type.name) span
  ofValue (.member span struct.expr name) (Value.type <$> stored) stored

end Reading

namespace Expr

mutual

/-- The readings of an expression. -/
def reading : Expr → Reading
  | absent => .absent
  | literal span l => .literal span l
  | constant span name x => .constant span name x
  | named span name => .named span name
  | unary span op operand => .unary span op ⟨operand, reading operand⟩
  | binary span left op right => .binary span ⟨left, reading left⟩ op ⟨right, reading right⟩
  | call span name args => .call span name args (arguments args)
  | index span base i => .index span ⟨base, reading base⟩ ⟨i, reading i⟩
  | entry span map key => .entry span ⟨map, reading map⟩ key
  | member span struct name => .member span ⟨struct, reading struct⟩ name

/-- The arguments of a call. -/
def arguments : List Expr → List Argument
  | [] => []
  | e :: rest => ⟨e.span, reading e⟩ :: arguments rest

end

/-- The type of an expression. -/
def typeOf (e : Expr) : Eval ValueType := e.reading.type

/-- The value of an expression. -/
def eval (e : Expr) : Eval Value := e.reading.value

/-- An expression read as an integer; nothing for an empty slot. -/
def evalInteger (e : Expr) : Eval (Option Int) := e.reading.integer

/-- An expression read as a double; nothing for an empty slot. -/
def evalDouble (e : Expr) : Eval (Option Float) := e.reading.double

/-- An expression read as a text; nothing for an empty slot. -/
def evalText (e : Expr) : Eval (Option String) := e.reading.text

theorem arguments_eq_map (es : List Expr) :
    arguments es = es.map fun e => ⟨e.span, e.reading⟩ := by
  induction es with
  | nil => rfl
  | cons e rest ih => simp [arguments, ih]

end Expr

end DialogScript
