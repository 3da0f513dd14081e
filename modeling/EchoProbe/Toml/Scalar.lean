import EchoProbe.Document
import EchoProbe.Toml.Text

/-!
# Single values

* `number?` reads a whole number, in decimal or after `0x`, `0o` or `0b`, or a number with a point
  or an exponent;
* `date?` reads a date, a time of day, or both with an optional offset;
* `scalar?` reads any value that holds no others.
-/

namespace EchoProbe

namespace Toml

/-! ### Numbers -/

/-- The number that digits of a base spell. -/
def numberOf (base : Nat) (ds : List Char) : Nat := (Numeral.ofDigits? base ds).getD 0

/-- A digit of a base. -/
def isDigitOf (base : Nat) (c : Char) : Bool := (Numeral.digit? base c).isSome

/-- A whole number, if it fits in 64 bits with sign. -/
def integer? (negative : Bool) (n : Nat) : Option Document :=
  if negative then if n ≤ 2 ^ 63 then some (.integer (-n)) else none
  else if n < 2 ^ 63 then some (.integer n) else none

/-- Whole digits in decimal: none stand after a zero in front. -/
def wholeDigits : Scan (List Char)
  | '0' :: cs => some (['0'], cs)
  | cs => digitRun (isDigitOf 10) cs

/-- Half way from the greatest binary number of 64 bits to the next power of two: what is not
less has no binary number near it. -/
def overflowBound : Nat := 2 ^ 1024 - 2 ^ 970

/-- `digits * 10 ^ exponent` reaches the bound. -/
def overflows (digits : List Char) (exponent : Int) : Bool :=
  let digits := digits.dropWhile (· = '0')
  let magnitude : Int := digits.length + exponent
  if digits.isEmpty || magnitude < 308 then false
  else if 310 < magnitude then true
  else
    numberOf 10 digits * 10 ^ exponent.toNat ≥ overflowBound * 10 ^ (-exponent).toNat

/-- Reads an exponent, after its letter. -/
def exponent? (cs : List Char) : Option (Int × List Char) := do
  let (negative, cs) := match cs with
    | '+' :: cs => (false, cs)
    | '-' :: cs => (true, cs)
    | cs => (false, cs)
  let (ds, rest) ← digitRun (isDigitOf 10) cs
  let n : Int := numberOf 10 ds
  return (if negative then -n else n, rest)

/-- A number with a point or an exponent, which must not be too great. -/
def fraction? (negative : Bool) (digits : List Char) (places : Nat) (exponent : Int)
    (rest : List Char) : Option (Document × List Char) :=
  if !negative && overflows digits (exponent - places) then none else some (.fraction, rest)

/-- Reads what follows the whole digits of a number in decimal. -/
def afterWhole (negative : Bool) (whole : List Char) : Scan Document
  | '.' :: cs => do
    let (places, rest) ← digitRun (isDigitOf 10) cs
    let (exponent, rest) ← match rest with
      | 'e' :: rest => exponent? rest
      | 'E' :: rest => exponent? rest
      | rest => some (0, rest)
    fraction? negative (whole ++ places) places.length exponent rest
  | 'e' :: cs => do
    let (exponent, rest) ← exponent? cs
    fraction? negative whole 0 exponent rest
  | 'E' :: cs => do
    let (exponent, rest) ← exponent? cs
    fraction? negative whole 0 exponent rest
  | rest => (integer? negative (numberOf 10 whole)).map (·, rest)

/-- Reads a whole number in another base, after its mark. -/
def based? (base : Nat) (cs : List Char) : Option (Document × List Char) := do
  let (ds, rest) ← digitRun (isDigitOf base) cs
  return (← integer? false (numberOf base ds), rest)

/-- Reads a number after its sign, in decimal, or the name of a number that is none. -/
def unsigned? (negative : Bool) (cs : List Char) : Option (Document × List Char) :=
  match literal? ['i', 'n', 'f'] cs, literal? ['n', 'a', 'n'] cs with
  | some rest, _ => some (.fraction, rest)
  | none, some rest => some (.fraction, rest)
  | none, none => do
    let (whole, rest) ← wholeDigits cs
    afterWhole negative whole rest

/-- Reads a number. -/
def number? : Scan Document
  | '+' :: cs => unsigned? false cs
  | '-' :: cs => unsigned? true cs
  | '0' :: 'x' :: cs => based? 16 cs
  | '0' :: 'o' :: cs => based? 8 cs
  | '0' :: 'b' :: cs => based? 2 cs
  | cs => unsigned? false cs

/-! ### Dates and times -/

/-- Reads `n` digits as a number between two bounds. -/
def fixedDigits (n low high : Nat) (cs : List Char) : Option (Nat × List Char) :=
  let ds := cs.take n
  if ds.length = n ∧ ds.all (isDigitOf 10) ∧ low ≤ numberOf 10 ds ∧ numberOf 10 ds ≤ high then
    some (numberOf 10 ds, cs.drop n)
  else none

/-- The number of days of a month. -/
def daysOfMonth (year month : Nat) : Nat :=
  if month = 2 then
    if year % 4 = 0 ∧ (year % 100 ≠ 0 ∨ year % 400 = 0) then 29 else 28
  else if month ∈ [4, 6, 9, 11] then 30 else 31

/-- Passes over a date. -/
def calendarDate? (cs : List Char) : Option (List Char) := do
  let (year, cs) ← fixedDigits 4 0 9999 cs
  let (month, cs) ← fixedDigits 2 1 12 (← literal? ['-'] cs)
  let (_, cs) ← fixedDigits 2 1 (daysOfMonth year month) (← literal? ['-'] cs)
  return cs

/-- Passes over a time of day. -/
def timeOfDay? (cs : List Char) : Option (List Char) := do
  let (_, cs) ← fixedDigits 2 0 23 cs
  let (_, cs) ← fixedDigits 2 0 59 (← literal? [':'] cs)
  let (_, cs) ← fixedDigits 2 0 60 (← literal? [':'] cs)
  match cs with
  | '.' :: rest =>
    if (rest.head?.map (isDigitOf 10)).getD false then return rest.dropWhile (isDigitOf 10)
    else return cs
  | _ => return cs

/-- Passes over the offset of a time zone. -/
def offset? : List Char → Option (List Char)
  | 'Z' :: cs => some cs
  | 'z' :: cs => some cs
  | c :: cs =>
    if c = '+' ∨ c = '-' then do
      let (_, cs) ← fixedDigits 2 0 23 cs
      let (_, cs) ← fixedDigits 2 0 59 (← literal? [':'] cs)
      return cs
    else none
  | [] => none

/-- Passes over a time of day after a date, with its offset, if they are there. -/
def timePart (cs : List Char) : List Char :=
  match cs with
  | c :: rest =>
    if c = 'T' ∨ c = 't' ∨ c = ' ' then
      match timeOfDay? rest with
      | some rest => (offset? rest).getD rest
      | none => cs
    else cs
  | [] => cs

/-- Reads a date, a time of day, or both. -/
def date? (cs : List Char) : Option (Document × List Char) :=
  match calendarDate? cs with
  | some rest => some (.date, timePart rest)
  | none => (timeOfDay? cs).map (.date, ·)

/-- Reads a value that holds no others. -/
def scalar? (cs : List Char) : Option (Document × List Char) :=
  match cs.head? with
  | none => none
  | some c =>
    if c = '"' ∨ c = '\x27' then (text? cs).map fun (s, rest) => (.string s, rest)
    else if c = 't' then (literal? ['t', 'r', 'u', 'e'] cs).map (.boolean true, ·)
    else if c = 'f' then (literal? ['f', 'a', 'l', 's', 'e'] cs).map (.boolean false, ·)
    else match date? cs with
      | some r => some r
      | none => number? cs

end Toml

end EchoProbe
