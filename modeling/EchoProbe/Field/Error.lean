import EchoProbe.Field.Type

/-!
# What can go wrong with a field

`FieldError` lists the causes, `FieldError.message` words them. A check that fails to read a field
takes the failure as a lack of information.
-/

namespace EchoProbe

/-- A failure to build, read or compare a field. -/
inductive FieldError
  /-- No type has this tag. -/
  | invalidTag (tag : Nat)
  /-- A value of one type was called for, and one of another was found. -/
  | typeMismatch (expected actual : FieldType)
  /-- No field has this key. -/
  | keyNotFound (key : String)
  /-- An integer is too large for its type. -/
  | outOfRange (type : FieldType) (value : Nat)
  /-- The bytes are too few or too many for the type. -/
  | invalidLength (type : FieldType) (expected provided : Nat)
  /-- The bytes are no text, or the text is no address. -/
  | invalidString
deriving DecidableEq

namespace FieldError

/-- The type whose tag is `n`. -/
def typeOfTag (n : Nat) : Except FieldError FieldType :=
  match FieldType.all[n]? with
  | some t => .ok t
  | none => .error (.invalidTag n)

/-- The wording of a failure. -/
def message : FieldError → String
  | invalidTag tag => "invalid field type tag: " ++ toString tag
  | typeMismatch expected actual =>
    "type mismatch: expected " ++ expected.name ++ ", found " ++ actual.name
  | keyNotFound key => "key not found: " ++ key
  | outOfRange type value => "value " ++ toString value ++ " out of range for " ++ type.name
  | invalidLength type expected provided =>
    "invalid length for " ++ type.name ++ ": expected=" ++ toString expected ++ ", provided=" ++
      toString provided
  | invalidString => "invalid utf-8 string"

end FieldError

end EchoProbe
