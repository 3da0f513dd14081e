/-!
# Unsigned numerals

* `digit?` is the value of a digit in a base up to sixteen, in either case;
* `ofDigits?` reads a run of one or more digits;
* `unsigned?` reads a decimal numeral with an optional plus sign, below a limit.
-/

namespace EchoProbe

namespace Numeral

/-- The value of a digit in the given base. -/
def digit? (base : Nat) (c : Char) : Option Nat :=
  let v :=
    if '0' ≤ c ∧ c ≤ '9' then c.toNat - '0'.toNat
    else if 'a' ≤ c ∧ c ≤ 'f' then c.toNat - 'a'.toNat + 10
    else if 'A' ≤ c ∧ c ≤ 'F' then c.toNat - 'A'.toNat + 10
    else base
  if v < base then some v else none

/-- Reads the digits `cs` after digits of value `acc`. -/
def readOn (base acc : Nat) : List Char → Option Nat
  | [] => some acc
  | c :: cs => (digit? base c).bind fun v => readOn base (base * acc + v) cs

/-- The number written by one or more digits. -/
def ofDigits? (base : Nat) (cs : List Char) : Option Nat :=
  if cs.isEmpty then none else readOn base 0 cs

/-- The number written by an optional plus sign and one or more decimal digits, if it is below
`limit`. -/
def unsigned? (limit : Nat) (s : String) : Option Nat :=
  let digits := match s.toList with
    | '+' :: rest => rest
    | cs => cs
  (ofDigits? 10 digits).filter (· < limit)

end Numeral

end EchoProbe
