import EchoProbe.Address
import EchoProbe.Radix
import EchoProbe.Text.Numeral

/-!
# The text of an address

* `IpAddr.text` writes an address: four decimal octets, or hexadecimal groups of which the longest
  run of two or more zeros, the first of equals, is left out as `::`; an address that maps an
  older one ends in its octets;
* `IpAddr.parse?` reads an address: octets without leading zeros, groups of one to four digits,
  at most one `::` for one or more groups, octets in place of the last two groups.
-/

namespace EchoProbe

namespace IpAddr

/-! ### Writing -/

/-- A number in decimal digits. -/
def decimal (n : Nat) : List Char := Nat.toDigits 10 n

/-- A number in lower-case hexadecimal digits. -/
def hexadecimal (n : Nat) : List Char := Nat.toDigits 16 n

/-- Four decimal octets. -/
def quad (n : Nat) : List Char :=
  List.intercalate ['.'] ((Radix.digits (2 ^ 8) 4 n).map decimal)

/-- Hexadecimal groups. -/
def colons (groups : List Nat) : List Char :=
  List.intercalate [':'] (groups.map hexadecimal)

/-- The number of zeros that a list starts with. -/
def leadingZeros : List Nat → Nat
  | 0 :: gs => leadingZeros gs + 1
  | _ => 0

/-- The start and the length of the longest run of zeros, the first of equals. -/
def longestZeros : List Nat → Nat × Nat
  | [] => (0, 0)
  | g :: gs =>
    let (start, length) := longestZeros gs
    if length ≤ leadingZeros (g :: gs) then (0, leadingZeros (g :: gs)) else (start + 1, length)

/-- Groups with their longest run of two or more zeros left out. -/
def compressed (groups : List Nat) : List Char :=
  let (start, length) := longestZeros groups
  if 1 < length then
    colons (groups.take start) ++ [':', ':'] ++ colons (groups.drop (start + length))
  else colons groups

/-- The characters of an address. -/
def chars : IpAddr → List Char
  | v4 bits => quad bits
  | v6 bits =>
    if bits.val / 2 ^ 32 = 2 ^ 16 - 1 then "::ffff:".toList ++ quad (bits.val % 2 ^ 32)
    else compressed (Radix.digits (2 ^ 16) 8 bits)

/-- The text of an address. -/
def text (a : IpAddr) : String := String.ofList a.chars

/-! ### Reading -/

/-- The pieces of a text between the separators. -/
def pieces (sep : Char) : List Char → List (List Char)
  | [] => [[]]
  | c :: cs =>
    if c = sep then [] :: pieces sep cs
    else match pieces sep cs with
      | p :: ps => (c :: p) :: ps
      | [] => [[c]]

/-- An octet: one to three digits, without a zero in front of others. -/
def octet? (cs : List Char) : Option Nat :=
  if 3 < cs.length ∨ 1 < cs.length ∧ cs.head? = some '0' then none
  else (Numeral.ofDigits? 10 cs).filter (· < 2 ^ 8)

/-- Four octets, as one number. -/
def quad? (cs : List Char) : Option Nat :=
  let parts := pieces '.' cs
  if parts.length = 4 then (parts.mapM octet?).map (Radix.value (2 ^ 8)) else none

/-- A group: one to four hexadecimal digits. -/
def group? (cs : List Char) : Option Nat :=
  if 4 < cs.length then none else Numeral.ofDigits? 16 cs

/-- A run of groups; where octets are welcome, they may stand in place of the last two. -/
def groups? (welcome : Bool) : List (List Char) → Option (List Nat)
  | [] => some []
  | [last] =>
    match group? last with
    | some g => some [g]
    | none => if welcome then (quad? last).map fun n => [n / 2 ^ 16, n % 2 ^ 16] else none
  | p :: ps => do
    let g ← group? p
    let gs ← groups? welcome ps
    return g :: gs

/-- A run of groups that may be empty. -/
def side? (welcome : Bool) (cs : List Char) : Option (List Nat) :=
  if cs.isEmpty then some [] else groups? welcome (pieces ':' cs)

/-- What stands before and after the first `::`. -/
def cutAtGap : List Char → Option (List Char × List Char)
  | [] => none
  | c :: cs =>
    if c = ':' ∧ cs.head? = some ':' then some ([], cs.tail)
    else (cutAtGap cs).map fun (before, after) => (c :: before, after)

/-- The eight groups that a text stands for. -/
def eightGroups? (cs : List Char) : Option (List Nat) :=
  match cutAtGap cs with
  | none => (groups? true (pieces ':' cs)).filter (·.length = 8)
  | some (before, after) => do
    let front ← side? false before
    let back ← side? true after
    if front.length + back.length < 8 then
      return front ++ List.replicate (8 - (front.length + back.length)) 0 ++ back
    else none

/-- The address written by some characters. -/
def ofChars? (cs : List Char) : Option IpAddr :=
  match quad? cs with
  | some n => if h : n < 2 ^ 32 then some (v4 ⟨n, h⟩) else none
  | none => (eightGroups? cs).bind fun gs =>
    let n := Radix.value (2 ^ 16) gs
    if h : n < 2 ^ 128 then some (v6 ⟨n, h⟩) else none

/-- The address written by a text. -/
def parse? (s : String) : Option IpAddr := ofChars? s.toList

end IpAddr

end EchoProbe
