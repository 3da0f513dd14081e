/-!
# Digits of a number, the highest first

* `digits base k n` is the last `k` digits of `n`, highest first;
* `value base ds` is the number with the digits `ds`;
* `value_digits` and `digits_value` say that they undo each other.
-/

/- A power of numbers is core's, whatever else is in scope: statements made beside other libraries
then speak of the powers that the definitions here use. -/
attribute [instance (1100), default_instance 10001] instPowNat

namespace EchoProbe

namespace Radix

/-- The last `k` digits of `n` in a base, highest first. -/
def digits (base : Nat) : Nat → Nat → List Nat
  | 0, _ => []
  | k + 1, n => n / base ^ k % base :: digits base k n

/-- The number with the given digits, highest first. -/
def value (base : Nat) : List Nat → Nat
  | [] => 0
  | d :: ds => d * base ^ ds.length + value base ds

variable {base : Nat}

@[simp] theorem length_digits (k n : Nat) : (digits base k n).length = k := by
  induction k with
  | zero => rfl
  | succ k ih => simp [digits, ih]

theorem lt_of_mem_digits (hb : 0 < base) {k n d : Nat} (h : d ∈ digits base k n) : d < base := by
  induction k with
  | zero => cases h
  | succ k ih =>
    rcases List.mem_cons.1 h with rfl | h
    · exact Nat.mod_lt _ hb
    · exact ih h

theorem value_digits_mod (k n : Nat) : value base (digits base k n) = n % base ^ k := by
  induction k with
  | zero => simp [digits, value, Nat.mod_one]
  | succ k ih =>
    rw [digits, value, ih, length_digits, Nat.pow_succ, Nat.mod_mul, Nat.mul_comm, Nat.add_comm]

theorem value_digits {k n : Nat} (h : n < base ^ k) : value base (digits base k n) = n := by
  rw [value_digits_mod, Nat.mod_eq_of_lt h]

/-- The last digits do not see what stands above them. -/
theorem digits_mul_add (k m n : Nat) : digits base k (m * base ^ k + n) = digits base k n := by
  induction k generalizing m with
  | zero => rfl
  | succ k ih =>
    have e : m * base ^ (k + 1) + n = m * base * base ^ k + n := by
      rw [Nat.pow_succ, Nat.mul_assoc m, Nat.mul_comm base]
    rw [digits, digits, e, ih]
    rcases Nat.eq_zero_or_pos base with rfl | hb
    · simp
    · rw [Nat.add_comm, Nat.add_mul_div_right _ _ (Nat.pow_pos hb), Nat.add_mul_mod_self_right]

theorem value_lt {ds : List Nat} (h : ∀ d ∈ ds, d < base) :
    value base ds < base ^ ds.length := by
  induction ds with
  | nil => simp [value]
  | cons d ds ih =>
    have hv := ih fun x hx => h x (List.mem_cons_of_mem _ hx)
    have hd : d + 1 ≤ base := h d List.mem_cons_self
    calc d * base ^ ds.length + value base ds
        < d * base ^ ds.length + base ^ ds.length := Nat.add_lt_add_left hv _
      _ = (d + 1) * base ^ ds.length := by rw [Nat.add_mul, Nat.one_mul]
      _ ≤ base * base ^ ds.length := Nat.mul_le_mul_right _ hd
      _ = base ^ (ds.length + 1) := by rw [Nat.pow_succ, Nat.mul_comm]

theorem digits_value {ds : List Nat} (h : ∀ d ∈ ds, d < base) :
    digits base ds.length (value base ds) = ds := by
  induction ds with
  | nil => rfl
  | cons d ds ih =>
    have hds : ∀ x ∈ ds, x < base := fun x hx => h x (List.mem_cons_of_mem _ hx)
    have hd : d < base := h d List.mem_cons_self
    have hp : 0 < base ^ ds.length := Nat.pow_pos (Nat.lt_of_le_of_lt (Nat.zero_le d) hd)
    rw [List.length_cons, digits, value, digits_mul_add, ih hds, Nat.add_comm,
      Nat.add_mul_div_right _ _ hp, Nat.div_eq_of_lt (value_lt hds), Nat.zero_add,
      Nat.mod_eq_of_lt hd]

end Radix

end EchoProbe
