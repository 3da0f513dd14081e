import EchoProbe.Field.Value

/-!
# Header fields

A `Field` is a value under a key. Fields make up the headers of outgoing probes and hold what was
read from received packets.

* `Field.create` converts a value to a wanted type, without loss or not at all;
* `Field.toNetwork` and `Field.fromNetwork` are the two directions of the wire format;
* `Field.compare` orders fields of one type by their values.
-/

namespace EchoProbe

/-- A value under a key. -/
structure Field where
  /-- The key. -/
  key : String
  /-- The value. -/
  value : Value
deriving DecidableEq

namespace Field

/-- A field of an integer type, from the lowest bits of a number. -/
def int (t : IntType) (key : String) (n : Nat) : Field := ⟨key, .truncate t n⟩

/-- A field that holds a text. -/
def string (key : String) (s : String) : Field := ⟨key, .string s⟩

/-- A field that holds an address as an integer. -/
def address (key : String) (a : IpAddr) : Field := ⟨key, .ofAddress a⟩

/-- The type of a field. -/
def type (f : Field) : FieldType := f.value.type

/-- The number of bytes of a field on the wire. -/
def size (f : Field) : Nat := f.value.size

/-- A field of the wanted type. -/
def create (t : FieldType) (key : String) (v : Value) : Except FieldError Field :=
  (v.convert t).map (⟨key, ·⟩)

/-- The bytes of a field. -/
def toNetwork (f : Field) : List UInt8 := f.value.toBytes

/-- The field of type `t` whose bytes are given. -/
def fromNetwork (t : FieldType) (key : String) (bs : List UInt8) : Except FieldError Field :=
  (Value.ofBytes t bs).map (⟨key, ·⟩)

/-- The order of two fields of one type; their keys do not matter. -/
def compare (a b : Field) : Except FieldError Ordering := a.value.compare b.value

/-- The text of a field, with its key and type. -/
def text (f : Field) : String := f.key ++ " = " ++ f.value.text ++ " (" ++ f.type.name ++ ")"

end Field

end EchoProbe
