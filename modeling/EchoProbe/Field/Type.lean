import EchoProbe.Radix

/-!
# The types of header fields

* `IntType` is a type of unsigned integers of a fixed width; `intmax` is as wide as `int64` but a
  type of its own, and an `int4` takes a whole byte on the wire;
* `FieldType` is an integer type or the type of texts; `FieldType.ofTag?` reads its number.
-/

namespace EchoProbe

/-- A type of unsigned integers. -/
inductive IntType
  | int4
  | int8
  | int16
  | int32
  | int64
  | int128
  | intmax
deriving DecidableEq

namespace IntType

/-- The number of bits of the integers of a type. -/
def bits : IntType → Nat
  | int4 => 4
  | int8 => 8
  | int16 => 16
  | int32 => 32
  | int64 => 64
  | int128 => 128
  | intmax => 64

/-- The number of bytes that an integer takes on the wire. -/
def size : IntType → Nat
  | int4 => 1
  | int8 => 1
  | int16 => 2
  | int32 => 4
  | int64 => 8
  | int128 => 16
  | intmax => 8

/-- The name of a type. -/
def name : IntType → String
  | int4 => "int4"
  | int8 => "int8"
  | int16 => "int16"
  | int32 => "int32"
  | int64 => "int64"
  | int128 => "int128"
  | intmax => "intmax"

theorem two_pow_bits_le (t : IntType) : 2 ^ t.bits ≤ (2 ^ 8) ^ t.size := by
  cases t <;> decide

end IntType

/-- The type of the value of a field. -/
inductive FieldType
  | int (t : IntType)
  | string
deriving DecidableEq

namespace FieldType

/-- All types, in the order of their tags. -/
def all : List FieldType :=
  [.int .int4, .int .int8, .int .int16, .int .int32, .int .int64, .int .int128, .int .intmax,
   .string]

/-- The number of a type. -/
def tag : FieldType → Nat
  | int .int4 => 0
  | int .int8 => 1
  | int .int16 => 2
  | int .int32 => 3
  | int .int64 => 4
  | int .int128 => 5
  | int .intmax => 6
  | string => 7

/-- The number of bytes of a value, where the type alone decides it. -/
def size? : FieldType → Option Nat
  | int t => some t.size
  | string => none

/-- The name of a type. -/
def name : FieldType → String
  | int t => t.name
  | string => "string"

theorem getElem?_all_tag (t : FieldType) : all[t.tag]? = some t := by
  rcases t with t | _
  · cases t <;> rfl
  · rfl

end FieldType

end EchoProbe
