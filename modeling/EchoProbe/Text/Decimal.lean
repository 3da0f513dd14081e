import EchoProbe.Radix

/-!
# Numbers with a fixed number of decimal places

A binary number is written with a chosen number of places after the point, rounded from its exact
value.

* `roundDiv` rounds a quotient to the nearest whole number, a tie to the even neighbour;
* `Binary` is a finite number as sign, whole significand and power of two, `Binary.ofFloat?` its
  reading from the bits of a `Float`;
* `fixed` is the text of a `Float` with a given number of places.
-/

namespace EchoProbe

namespace Decimal

/-- The whole number nearest to `num / den`; of two equally near ones, the even one. -/
def roundDiv (num den : Nat) : Nat :=
  let q := num / den
  let twice := 2 * (num % den)
  if twice < den then q
  else if den < twice then q + 1
  else q + q % 2

/-- A rounded quotient is within half a unit of the quotient. -/
theorem roundDiv_within_half (num : Nat) {den : Nat} (hd : 0 < den) :
    2 * num ≤ 2 * (roundDiv num den * den) + den ∧
      2 * (roundDiv num den * den) ≤ 2 * num + den := by
  have h : num / den * den + num % den = num := by
    rw [Nat.mul_comm]; exact Nat.div_add_mod num den
  have hr := Nat.mod_lt num hd
  have hs : (num / den + 1) * den = num / den * den + den := by rw [Nat.add_mul, Nat.one_mul]
  simp only [roundDiv]
  split
  · omega
  · split
    · rw [hs]; omega
    · rcases Nat.mod_two_eq_zero_or_one (num / den) with h2 | h2 <;> rw [h2]
      · simp only [Nat.add_zero]; omega
      · rw [hs]; omega

/-- A tie goes to the even neighbour. -/
theorem roundDiv_tie {num den : Nat} (h : 2 * (num % den) = den) : roundDiv num den % 2 = 0 := by
  simp only [roundDiv, h, Nat.lt_irrefl, ite_false]
  omega

/-- A finite number: the significand times a power of two, with a sign. -/
structure Binary where
  /-- The number is below zero, or is the negative zero. -/
  negative : Bool
  /-- The whole significand. -/
  significand : Nat
  /-- The power of two that scales it. -/
  exponent : Int

/-- The exact value of a finite `Float`. -/
def Binary.ofFloat? (x : Float) : Option Binary :=
  let bits : Nat := x.toBits.toNat
  let fraction : Nat := bits % 2 ^ 52
  let scale : Nat := bits / 2 ^ 52 % 2 ^ 11
  let negative := bits / 2 ^ 63 == 1
  if scale = 2 ^ 11 - 1 then none
  else if scale = 0 then some ⟨negative, fraction, -1074⟩
  else some ⟨negative, fraction + 2 ^ 52, (scale : Int) - 1075⟩

/-- The magnitude of a number in units of the last of `places` decimal places, rounded. -/
def Binary.inUnits (places : Nat) (b : Binary) : Nat :=
  if b.exponent < 0 then roundDiv (b.significand * 10 ^ places) (2 ^ b.exponent.natAbs)
  else b.significand * 2 ^ b.exponent.natAbs * 10 ^ places

/-- The digits of `n`, with zeros in front up to `width` digits. -/
def padded (width n : Nat) : String :=
  let digits := Nat.toDigits 10 n
  String.ofList (List.replicate (width - digits.length) '0' ++ digits)

/-- `units` of the last of `places` decimal places, as text. -/
def ofUnits (places units : Nat) : String :=
  let whole := toString (units / 10 ^ places)
  if places = 0 then whole else whole ++ "." ++ padded places (units % 10 ^ places)

/-- The text of a number with `places` decimal places, as in `-0.500`; the words `NaN`, `inf` and
`-inf` for what is no finite number. -/
def fixed (places : Nat) (x : Float) : String :=
  match Binary.ofFloat? x with
  | some b => (if b.negative then "-" else "") ++ ofUnits places (b.inUnits places)
  | none => if x.isNaN then "NaN" else if x < 0 then "-inf" else "inf"

end Decimal

end EchoProbe
