import EchoProbe.Proofs.Wire

/-!
# The order of fields

Fields of one type come in the order of their bytes on the wire: integers because their highest byte
comes first, texts because they are compared byte by byte anyway.

* `Value.wireOrder` is the order of the bytes of two values, and `Value.compareLex_eq_compare` says
  that as many bytes on either side are in the order of the numbers that they spell;
* `Value.compare_eq` gives every comparison in these terms, that of values without an order
  included;
* `Field.Collates` says how a field compares with others, and `Field.compare_collates` that all do.
-/

namespace EchoProbe

/-- A digit decides before all that comes after it. -/
theorem Radix.compare_mul_add {b m n r s : Nat} (hr : r < b) (hs : s < b) :
    Ord.compare (m * b + r) (n * b + s) = (Ord.compare m n).then (Ord.compare r s) := by
  -- the next multiple of the place value exceeds whatever the lower digits spell
  have hstep {i j x y : Nat} (hij : i < j) (hx : x < b) : i * b + x < j * b + y :=
    calc i * b + x < i * b + b := Nat.add_lt_add_left hx _
      _ = (i + 1) * b := by rw [Nat.add_mul, Nat.one_mul]
      _ ≤ j * b := Nat.mul_le_mul_right b hij
      _ ≤ j * b + y := Nat.le_add_right ..
  rcases Nat.lt_trichotomy m n with h | rfl | h
  · rw [Nat.compare_eq_lt.2 h, Nat.compare_eq_lt.2 (hstep h hr)]
    rfl
  · rw [Nat.compare_eq_eq.2 rfl, Ordering.eq_then]
    simp only [Nat.compare_eq_ite_lt, Nat.add_lt_add_iff_left]
  · rw [Nat.compare_eq_gt.2 h, Nat.compare_eq_gt.2 (hstep h hs)]
    rfl

namespace Value

variable {v w : Value}

/-- The order of the bytes of two values: the first difference decides, and bytes that end before
any difference come first. -/
def wireOrder (v w : Value) : Ordering := List.compareLex Ord.compare v.toBytes w.toBytes

instance : Std.TransCmp wireOrder where
  eq_swap {v w} := by
    have h : Std.OrientedCmp (List.compareLex (Ord.compare : UInt8 → UInt8 → Ordering)) :=
      inferInstance
    exact h.eq_swap
  isLE_trans {u v w} huv hvw := by
    have h : Std.TransCmp (List.compareLex (Ord.compare : UInt8 → UInt8 → Ordering)) :=
      inferInstance
    exact h.isLE_trans huv hvw

theorem compare_toNat (b c : UInt8) : Ord.compare b.toNat c.toNat = Ord.compare b c := by
  simp [Ord.compare, compareOfLessAndEq, UInt8.lt_iff_toNat_lt, UInt8.toNat_inj]

/-- As many bytes on either side are in the order of the numbers that they spell. -/
theorem compareLex_eq_compare {bs cs : List UInt8} (h : bs.length = cs.length) :
    List.compareLex Ord.compare bs cs = Ord.compare (ofByteDigits bs) (ofByteDigits cs) := by
  induction bs generalizing cs with
  | nil =>
    rw [List.eq_nil_of_length_eq_zero h.symm]
    rfl
  | cons b bs ih =>
    obtain ⟨c, cs, rfl⟩ := List.exists_cons_of_length_eq_add_one h.symm
    have hlen : bs.length = cs.length := Nat.succ.inj h
    have hcs : ofByteDigits cs < (2 ^ 8) ^ bs.length := hlen ▸ ofByteDigits_lt cs
    rw [List.compareLex_cons_cons, ih hlen, ofByteDigits_cons, ofByteDigits_cons, ← hlen,
      Radix.compare_mul_add (ofByteDigits_lt bs) hcs, compare_toNat]

theorem wireOrder_int (t : IntType) (m n : Fin (2 ^ t.bits)) :
    wireOrder (int t m) (int t n) = Ord.compare m.val n.val := by
  have hlen : (int t m).toBytes.length = (int t n).toBytes.length := by
    rw [length_toBytes, length_toBytes]
    rfl
  rw [wireOrder, compareLex_eq_compare hlen, ofByteDigits_toBytes, ofByteDigits_toBytes]

/-- **Values of one type are in the order of their bytes,** and others have no order. -/
theorem compare_eq (v w : Value) :
    v.compare w =
      if v.type = w.type then .ok (wireOrder v w) else .error (.typeMismatch v.type w.type) := by
  cases v with
  | int t m =>
    cases w with
    | int u n =>
      by_cases h : t = u
      · subst h
        simp [compare, type, wireOrder_int]
      · simp [compare, type, h]
    | string s => rfl
  | string s =>
    cases w with
    | int u n => rfl
    | string s' => rfl

theorem compare_eq_ok_iff {o : Ordering} :
    v.compare w = .ok o ↔ v.type = w.type ∧ wireOrder v w = o := by
  rw [compare_eq]
  split <;> simp_all

theorem eq_of_toBytes (ht : v.type = w.type) (h : v.toBytes = w.toBytes) : v = w := by
  have hw := ofBytes_toBytes w
  rw [← ht, ← h, ofBytes_toBytes] at hw
  exact Except.ok.inj hw

end Value

namespace Field

variable {a b c : Field}

/-- The first field comes no later than the second. -/
def AtMost (a b : Field) : Prop := ∃ o, a.compare b = .ok o ∧ o.isLE

theorem atMost_iff : a.AtMost b ↔ a.type = b.type ∧ (Value.wireOrder a.value b.value).isLE := by
  constructor
  · rintro ⟨o, ho, hle⟩
    obtain ⟨ht, rfl⟩ := Value.compare_eq_ok_iff.1 ho
    exact ⟨ht, hle⟩
  · rintro ⟨ht, hle⟩
    exact ⟨_, Value.compare_eq_ok_iff.2 ⟨ht, rfl⟩, hle⟩

/-- How a field compares with others. -/
structure Collates (a b : Field) : Prop where
  /-- Fields of one type are in the order of their bytes on the wire. -/
  bytes : a.type = b.type →
    a.compare b = .ok (List.compareLex Ord.compare a.toNetwork b.toNetwork)
  /-- Others have no order; what was called for is the type of the field that is asked. -/
  mismatch : a.type ≠ b.type → a.compare b = .error (.typeMismatch a.type b.type)
  /-- The other way round, the order is the other way round. -/
  swap (o : Ordering) : a.compare b = .ok o ↔ b.compare a = .ok o.swap
  total : a.type = b.type → a.AtMost b ∨ b.AtMost a
  antisymm : a.AtMost b → b.AtMost a → a.value = b.value
  trans (c : Field) : a.AtMost b → b.AtMost c → a.AtMost c
  equal : a.compare b = .ok .eq ↔ a.value = b.value
  /-- Under whatever keys, the values compare alike. -/
  keys (key key' : String) : compare ⟨key, a.value⟩ ⟨key', b.value⟩ = a.compare b

theorem compare_eq_ok_swap {o : Ordering} (h : a.compare b = .ok o) :
    b.compare a = .ok o.swap := by
  obtain ⟨ht, rfl⟩ := Value.compare_eq_ok_iff.1 h
  exact Value.compare_eq_ok_iff.2 ⟨ht.symm, Std.OrientedCmp.eq_swap⟩

theorem compare_eq_ok_eq_iff : a.compare b = .ok .eq ↔ a.value = b.value := by
  constructor
  · intro h
    obtain ⟨ht, ho⟩ := Value.compare_eq_ok_iff.1 h
    exact Value.eq_of_toBytes ht (Std.LawfulEqCmp.eq_of_compare ho)
  · intro h
    refine Value.compare_eq_ok_iff.2 ⟨congrArg Value.type h, ?_⟩
    rw [h]
    exact Std.ReflCmp.compare_self

theorem AtMost.trans (h : a.AtMost b) (h' : b.AtMost c) : a.AtMost c := by
  rw [atMost_iff] at h h' ⊢
  exact ⟨h.1.trans h'.1, Std.TransCmp.isLE_trans h.2 h'.2⟩

/-- **Fields are in the order of their bytes on the wire.** On each type this is a total order, in
which only equal values come in the same place, and which does not look at the keys; fields of
different types have no order. -/
theorem compare_collates (a b : Field) : Collates a b where
  bytes ht := Value.compare_eq_ok_iff.2 ⟨ht, rfl⟩
  mismatch ht := (Value.compare_eq ..).trans (if_neg ht)
  swap o := by
    refine ⟨compare_eq_ok_swap, ?_⟩
    intro h
    simpa using compare_eq_ok_swap h
  total ht := by
    have h := Value.compare_eq_ok_iff.2 ⟨ht, rfl⟩
    cases ho : Value.wireOrder a.value b.value with
    | lt | eq => exact .inl (atMost_iff.2 ⟨ht, by rw [ho]; rfl⟩)
    | gt =>
      rw [ho] at h
      exact .inr ⟨.lt, compare_eq_ok_swap h, rfl⟩
  antisymm h h' := by
    rw [atMost_iff] at h h'
    exact compare_eq_ok_eq_iff.1 (Value.compare_eq_ok_iff.2
      ⟨h.1, Std.OrientedCmp.isLE_antisymm h.2 h'.2⟩)
  trans _ := AtMost.trans
  equal := compare_eq_ok_eq_iff
  keys _ _ := rfl

/-- The highest byte is written first and decides; of texts, the longer one may come first. -/
example :
    (Field.int .int16 "low" 0x00ff).compare (.int .int16 "high" 0x0100) = .ok .lt ∧
      (Field.string "long" "abc").compare (.string "short" "b") = .ok .lt :=
  ⟨rfl, rfl⟩

end Field

end EchoProbe
