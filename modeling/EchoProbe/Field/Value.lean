import EchoProbe.Address.Text
import EchoProbe.Field.Error
import EchoProbe.Text.Quoted

/-!
# The values of header fields

* `Value` is an integer of some type, within its width, or a text;
* `Value.ofInteger` narrows a number to a type, `Value.toBytes` is the form on the wire, highest
  byte first, and `Value.ofBytes` reads it back;
* `Value.extract` takes the content out of a value of a given type, `Value.address` an address.
-/

namespace EchoProbe

/-- The value of a field. -/
inductive Value
  | int (t : IntType) (n : Fin (2 ^ t.bits))
  | string (s : String)
deriving DecidableEq

/-- What a value of a type holds. -/
abbrev FieldType.Content : FieldType → Type
  | .int t => Fin (2 ^ t.bits)
  | .string => String

namespace Value

/-- The type of a value. -/
def type : Value → FieldType
  | int t _ => .int t
  | string _ => .string

/-- The value that holds a content. -/
def ofContent : (t : FieldType) → t.Content → Value
  | .int t, n => int t n
  | .string, s => string s

/-- An integer of the given type, from its lowest bits. -/
def truncate (t : IntType) (n : Nat) : Value := int t (Fin.ofNat (2 ^ t.bits) n)

/-- An address, as the integer that its bits spell. -/
def ofAddress : IpAddr → Value
  | .v4 bits => int .int32 bits
  | .v6 bits => int .int128 bits

/-- The number that an integer value holds. -/
def integer? : Value → Option Nat
  | int _ n => some n.val
  | string _ => none

/-- The number of bytes of a value on the wire. -/
def size : Value → Nat
  | int t _ => t.size
  | string s => s.utf8ByteSize

/-- The number `n` as a value of an integer type, if it is not too large. -/
def ofInteger (t : IntType) (n : Nat) : Except FieldError Value :=
  if h : n < 2 ^ t.bits then .ok (int t ⟨n, h⟩) else .error (.outOfRange (.int t) n)

/-- A value as a value of the type `t`: texts stay texts, integers keep their number. -/
def convert (t : FieldType) (v : Value) : Except FieldError Value :=
  match t, v with
  | .string, string s => .ok (string s)
  | .int t, int _ n => ofInteger t n
  | t, v => .error (.typeMismatch t v.type)

/-! ### On the wire -/

/-- The bytes of a text. -/
def textBytes (s : String) : List UInt8 := s.toUTF8.data.toList

/-- The bytes of a value, the highest first. -/
def toBytes : Value → List UInt8
  | int t n => (Radix.digits (2 ^ 8) t.size n).map UInt8.ofNat
  | string s => textBytes s

/-- The number that some bytes spell, the highest first. -/
def ofByteDigits (bs : List UInt8) : Nat := Radix.value (2 ^ 8) (bs.map UInt8.toNat)

/-- The value of type `t` that some bytes stand for. -/
def ofBytes (t : FieldType) (bs : List UInt8) : Except FieldError Value :=
  match t with
  | .string =>
    match String.fromUTF8? ⟨bs.toArray⟩ with
    | some s => .ok (string s)
    | none => .error .invalidString
  | .int t =>
    if bs.length = t.size then ofInteger t (ofByteDigits bs)
    else .error (.invalidLength (.int t) t.size bs.length)

/-! ### Reading -/

/-- The content of a value of the type `t`. -/
def extract (t : FieldType) (v : Value) : Except FieldError t.Content :=
  match t, v with
  | .int t, int u n => if h : u = t then .ok (h ▸ n) else .error (.typeMismatch (.int t) (.int u))
  | .string, string s => .ok s
  | t, v => .error (.typeMismatch t v.type)

/-- The address that a value stands for: the integers as wide as one, and its text. -/
def address (v : Value) : Except FieldError IpAddr :=
  match v with
  | int .int32 bits => .ok (.v4 bits)
  | int .int128 bits => .ok (.v6 bits)
  | string s =>
    match IpAddr.parse? s with
    | some a => .ok a
    | none => .error .invalidString
  | v => .error (.typeMismatch (.int .int32) v.type)

/-! ### Order and text -/

/-- The order of two values of one type: integers by number, texts by their bytes. -/
def compare (a b : Value) : Except FieldError Ordering :=
  match a, b with
  | int t m, int u n =>
    if t = u then .ok (Ord.compare m.val n.val) else .error (.typeMismatch (.int t) (.int u))
  | string s, string u => .ok (List.compareLex Ord.compare (textBytes s) (textBytes u))
  | a, b => .error (.typeMismatch a.type b.type)

/-- The text of a value: a number in decimal, save that a number of 128 bits has 32 hexadecimal
digits, and a quoted text. -/
def text : Value → String
  | int .int128 n =>
    "0x" ++ String.ofList ((Radix.digits 16 32 n).map fun d => Nat.digitChar d)
  | int _ n => toString n.val
  | string s => quoted s

@[simp] theorem type_ofContent (t : FieldType) (c : t.Content) : (ofContent t c).type = t := by
  cases t <;> rfl

theorem extract_ofContent (t : FieldType) (c : t.Content) : (ofContent t c).extract t = .ok c := by
  cases t with
  | int t => simp [ofContent, extract]
  | string => rfl

theorem exists_extract (v : Value) : ∃ c, v.extract v.type = .ok c ∧ v = ofContent v.type c := by
  cases v with
  | int t n => exact ⟨n, dif_pos rfl, rfl⟩
  | string s => exact ⟨s, rfl, rfl⟩

theorem extract_of_ne {v : Value} {t : FieldType} (h : t ≠ v.type) :
    v.extract t = .error (.typeMismatch t v.type) := by
  cases t with
  | int t =>
    cases v with
    | int u n =>
      have hne : u ≠ t := by
        rintro rfl
        exact h rfl
      exact dif_neg hne
    | string s => rfl
  | string =>
    cases v with
    | int u n => rfl
    | string s => exact (h rfl).elim

theorem extract_eq_ok_iff {v : Value} {t : FieldType} {c : t.Content} :
    v.extract t = .ok c ↔ v = ofContent t c := by
  constructor
  · intro h
    by_cases ht : t = v.type
    · subst ht
      obtain ⟨d, hd, hv⟩ := v.exists_extract
      rw [hd] at h
      cases h
      exact hv
    · rw [extract_of_ne ht] at h
      cases h
  · rintro rfl
    exact extract_ofContent t c

/-- Only another type than its own is refused, and for this reason. -/
theorem extract_eq_error_iff {v : Value} {t : FieldType} {e : FieldError} :
    v.extract t = .error e ↔ t ≠ v.type ∧ e = .typeMismatch t v.type := by
  constructor
  · intro h
    have hne : t ≠ v.type := by
      rintro rfl
      obtain ⟨c, hc, -⟩ := v.exists_extract
      rw [hc] at h
      cases h
    rw [extract_of_ne hne] at h
    cases h
    exact ⟨hne, rfl⟩
  · rintro ⟨hne, rfl⟩
    exact extract_of_ne hne

@[simp] theorem address_ofAddress (a : IpAddr) : (ofAddress a).address = .ok a := by
  cases a <;> rfl

end Value

end EchoProbe
