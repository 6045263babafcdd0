import DialogScript.Check.Field

/-!
Declarations of variables, and the invalidation of parameters.
-/

namespace DialogScript.Check

/-- What a declaration without a type says, for messages. -/
def declaredText (d : Declaration) : String :=
  match d.subtype with
  | some t => d.kind.name ++ " " ++ t.spelling
  | none => d.kind.name

/-- The first value of a variable. Only parameters have a default. -/
def firstValue (d : Declaration) (type : ValueType) : Check Value :=
  match d.kind, d.subtype with
  | .parameter, some subtype => defaultValue subtype d.default
  | _, _ =>
    if d.default.isAbsent then pure (Value.zeroOf type)
    else fail (.defaultNotAllowed d.kind d.name)

/-- `DECLARE_VARIABLE`: binds a name, or counts a declaration of the same type once more. -/
def declaration (d : Declaration) : Check Unit := do
  requireIdentifier d.name "name"
  match d.kind.valueType? d.subtype with
  | none =>
    fail (.typeMismatch ("declaration of " ++ quote d.name) "a concrete variable type"
      (declaredText d))
  | some type => do
    let bound ← lookup d.name
    match bound with
    | some existing =>
      if existing.type ≠ type then fail (.redeclared d.name existing.type type)
      else do
        let count ← declare d.name existing
        remark (.redeclared d.name count)
    | none => do
      let value ← firstValue d type
      let _ ← declare d.name value
      pure ()

/-- Requires a scalar value under a name, if it is bound. -/
def requireScalar (name : String) : Check Unit := do
  let bound ← lookup name
  match bound with
  | none => remark (.invalidatesNothing name)
  | some existing =>
    if existing.type.isScalar then pure ()
    else fail (.typeMismatch ("invalidated parameter " ++ quote name)
      "INTEGER, DOUBLE, STRING or BOOL" existing.type.name)

/-- `INVALIDATE_PARAM`: queues a parameter, which must be a scalar if it is bound. -/
def invalidation (name : String) : Check Unit := do
  requireIdentifier name "name"
  requireScalar name
  write (.appendTracked .invalidatedParams (.string name))
  remark (.invalidationQueued name)

end DialogScript.Check
