import EchoProbe.Proofs.Wire

/-!
# Conversion without loss

A value is converted to a type by keeping what it holds: a text stays a text, and an integer keeps
its number, in the width of the other type. What the other type cannot hold is refused.

* `IntType.largest` is the largest integer of a type; `Value.Fits`, `Value.Alike` and `Value.Misfit`
  say which values a type can hold, when two values hold the same, and what is wrong otherwise;
* `Value.narrow` converts an integer in machine words, by a bound and by cutting off high bits, and
  `Value.narrow_eq` says that no bit of an integer within the bound is lost; `Value.ofBytes_int`
  reads bytes that way;
* `Field.Converts` says what becomes of a value, and `Field.create_converts` that it does.
-/

namespace EchoProbe

/-- The largest integer of a type. -/
def IntType.largest : IntType → Nat
  | int4 => 15
  | int8 => 255
  | int16 => 65535
  | int32 => 4294967295
  | int64 => 18446744073709551615
  | int128 => 340282366920938463463374607431768211455
  | intmax => 18446744073709551615

theorem IntType.largest_add_one (t : IntType) : t.largest + 1 = 2 ^ t.bits := by
  cases t <;> rfl

theorem IntType.lt_two_pow_bits_iff {t : IntType} {n : Nat} : n < 2 ^ t.bits ↔ n ≤ t.largest := by
  rw [← largest_add_one, Nat.lt_succ_iff]

theorem IntType.bits_le (t : IntType) : t.bits ≤ 128 := by
  cases t <;> decide

namespace Value

variable {t u : FieldType} {v w : Value} {e : FieldError}

/-- A type can hold what a value holds. -/
inductive Fits : Value → FieldType → Prop
  | integer {t u : IntType} {n : Fin (2 ^ t.bits)} : n.val ≤ u.largest → Fits (int t n) (.int u)
  | text (s : String) : Fits (string s) .string

/-- Two values hold the same integer, or the same text. -/
inductive Alike : Value → Value → Prop
  | integer {t u : IntType} {m : Fin (2 ^ t.bits)} {n : Fin (2 ^ u.bits)} :
      m.val = n.val → Alike (int t m) (int u n)
  | text (s : String) : Alike (string s) (string s)

/-- Why a type cannot hold what a value holds. -/
inductive Misfit : Value → FieldType → FieldError → Prop
  /-- The integer exceeds the largest one of the type. -/
  | large {t u : IntType} {n : Fin (2 ^ t.bits)} : u.largest < n.val →
      Misfit (int t n) (.int u) (.outOfRange (.int u) n.val)
  /-- An integer is no text. -/
  | integer {t : IntType} (n : Fin (2 ^ t.bits)) :
      Misfit (int t n) .string (.typeMismatch .string (.int t))
  /-- A text is no integer, not even the text of one. -/
  | text (s : String) (u : IntType) :
      Misfit (string s) (.int u) (.typeMismatch (.int u) .string)

/-! ### Conversion -/

theorem convert_eq_ok_iff : v.convert t = .ok w ↔ w.type = t ∧ w.Alike v := by
  constructor
  · intro h
    unfold convert at h
    split at h
    · cases h
      exact ⟨rfl, .text _⟩
    · unfold ofInteger at h
      split at h
      · cases h
        exact ⟨rfl, .integer rfl⟩
      · cases h
    · cases h
  · rintro ⟨rfl, h⟩
    cases h with
    | integer hn => simp [convert, type, ofInteger, ← hn]
    | text s => rfl

theorem convert_eq_error_iff : v.convert t = .error e ↔ v.Misfit t e := by
  constructor
  · intro h
    cases v with
    | int u n =>
      cases t with
      | int t =>
        simp only [convert, ofInteger] at h
        split at h
        · cases h
        · rename_i hlt
          cases h
          rw [IntType.lt_two_pow_bits_iff, Nat.not_le] at hlt
          exact .large hlt
      | string =>
        cases h
        exact .integer n
    | string s =>
      cases t with
      | int t =>
        cases h
        exact .text s t
      | string => cases h
  · rintro (hlt | n | ⟨s, u⟩)
    · rw [← Nat.not_le, ← IntType.lt_two_pow_bits_iff] at hlt
      simp [convert, ofInteger, hlt]
    · rfl
    · rfl

theorem exists_convert_iff : (∃ w, v.convert t = .ok w) ↔ v.Fits t := by
  constructor
  · rintro ⟨w, hw⟩
    obtain ⟨rfl, halike⟩ := convert_eq_ok_iff.1 hw
    cases halike with
    | @integer t u m n hn => exact .integer (hn ▸ IntType.lt_two_pow_bits_iff.1 m.isLt)
    | text s => exact .text s
  · rintro (hle | s)
    · exact ⟨_, dif_pos (IntType.lt_two_pow_bits_iff.2 hle)⟩
    · exact ⟨_, rfl⟩

theorem Alike.refl (v : Value) : v.Alike v := by
  cases v with
  | int t n => exact .integer rfl
  | string s => exact .text s

theorem convert_type (v : Value) : v.convert v.type = .ok v :=
  convert_eq_ok_iff.2 ⟨rfl, .refl v⟩

/-- Only what a value holds counts for its conversion to an integer, not its width. -/
theorem Alike.convert {u : IntType} (h : w.Alike v) : w.convert (.int u) = v.convert (.int u) := by
  cases h with
  | integer hn => simp only [Value.convert, hn]
  | text s => rfl

/-! ### In machine words -/

end Value

/-- The bits of a word that the integers of a type take: half a byte is cut out of a byte by a
mask, all other types have a width to which a word is cut off. -/
def IntType.cut : IntType → BitVec 128 → Nat
  | int4, w => (w.setWidth 8 &&& 0x0f#8).toNat
  | t, w => (w.setWidth t.bits).toNat

theorem IntType.cut_eq_mod (t : IntType) (w : BitVec 128) : t.cut w = w.toNat % 2 ^ t.bits := by
  cases t with
  | int4 =>
    have hmask : (w.setWidth 8 &&& 0x0f#8).toNat = w.toNat % 2 ^ 8 &&& (2 ^ 4 - 1) := by
      rw [BitVec.toNat_and, BitVec.toNat_setWidth]
      rfl
    rw [cut, hmask, Nat.and_two_pow_sub_one_eq_mod]
    exact Nat.mod_mod_of_dvd _ (Nat.pow_dvd_pow 2 (by decide))
  | _ => exact BitVec.toNat_setWidth ..

theorem IntType.size_le (t : IntType) : t.size ≤ 16 := by
  cases t <;> decide

theorem IntType.cut_lt (t : IntType) (w : BitVec 128) : t.cut w < 2 ^ t.bits := by
  rw [cut_eq_mod]
  exact Nat.mod_lt _ (Nat.two_pow_pos _)

namespace Value

/-- A word as an integer of a type, cut to its width unless it is larger than its largest. -/
def narrow (t : IntType) (w : BitVec 128) : Except FieldError Value :=
  if BitVec.ofNat 128 t.largest < w then .error (.outOfRange (.int t) w.toNat)
  else .ok (int t ⟨t.cut w, t.cut_lt w⟩)

/-- An integer of any type, in a word. -/
def widen {t : IntType} (n : Fin (2 ^ t.bits)) : BitVec 128 := .ofNat 128 n.val

theorem toNat_widen {t : IntType} (n : Fin (2 ^ t.bits)) : (widen n).toNat = n.val :=
  Nat.mod_eq_of_lt (Nat.lt_of_lt_of_le n.isLt (Nat.pow_le_pow_right (by decide) t.bits_le))

/-- **Cutting a word loses nothing** of an integer that the type can hold. -/
theorem narrow_eq (t : IntType) (w : BitVec 128) : narrow t w = ofInteger t w.toNat := by
  have hlargest : (BitVec.ofNat 128 t.largest).toNat = t.largest := by
    cases t <;> rfl
  have hbound : BitVec.ofNat 128 t.largest < w ↔ ¬w.toNat < 2 ^ t.bits := by
    rw [BitVec.lt_def, hlargest, IntType.lt_two_pow_bits_iff, Nat.not_le]
  unfold narrow ofInteger
  by_cases h : w.toNat < 2 ^ t.bits
  · rw [dif_pos h, if_neg fun hlt => hbound.1 hlt h]
    simp only [IntType.cut_eq_mod, Nat.mod_eq_of_lt h]
  · rw [dif_neg h, if_pos (hbound.2 h)]

/-- **Bytes are read in machine words**: shifted into one, which is then cut to the type. -/
theorem ofBytes_int (t : IntType) (bs : List UInt8) :
    ofBytes (.int t) bs = if bs.length = t.size then narrow t (packed bs)
      else .error (.invalidLength (.int t) t.size bs.length) := by
  rw [ofBytes]
  split
  · rename_i hlen
    rw [narrow_eq, toNat_packed (hlen ▸ t.size_le)]
  · rfl

end Value

/-! ### Fields -/

namespace Field

variable {t : FieldType} {key : String} {v : Value} {f : Field} {e : FieldError}

/-- What becomes of a value that is to be put under a key. -/
structure Converts (key : String) (v : Value) : Prop where
  /-- A type takes the values that it can hold. -/
  fits (t : FieldType) : (∃ f, create t key v = .ok f) ↔ v.Fits t
  /-- The field has the type and the key and holds what the value holds, and is the only one. -/
  result (t : FieldType) (f : Field) :
    create t key v = .ok f ↔ f.type = t ∧ f.key = key ∧ f.value.Alike v
  /-- To convert once more changes nothing. -/
  again (t : FieldType) (f : Field) : create t key v = .ok f → create t key f.value = .ok f
  /-- What is refused is named as it was given. -/
  refused (t : FieldType) (e : FieldError) : create t key v = .error e ↔ v.Misfit t e
  /-- An integer may first be converted to any type that can hold it, under any key. -/
  through (t u : IntType) (key' : String) : v.Fits (.int t) →
    ((create (.int t) key' v).bind fun f => create (.int u) key f.value) = create (.int u) key v
  /-- The words come to the same. -/
  words (t u : IntType) (n : Fin (2 ^ t.bits)) : v = .int t n →
    create (.int u) key v = (Value.narrow u (Value.widen n)).map (⟨key, ·⟩)

theorem create_eq_ok_iff :
    create t key v = .ok f ↔ f.key = key ∧ v.convert t = .ok f.value := by
  obtain ⟨key', w⟩ := f
  cases h : v.convert t with
  | error e => simp [create, h, Except.map]
  | ok u => simp [create, h, Except.map, eq_comm]

theorem create_eq_error_iff : create t key v = .error e ↔ v.convert t = .error e := by
  cases h : v.convert t <;> simp [create, h, Except.map]

/-- **Fields are made without loss.** A value is converted to the types that can hold what it holds,
and keeps it; a detour over such a type changes neither the field nor the refusal. -/
theorem create_converts (key : String) (v : Value) : Converts key v where
  fits t := by
    rw [← Value.exists_convert_iff]
    constructor
    · rintro ⟨f, h⟩
      exact ⟨f.value, (create_eq_ok_iff.1 h).2⟩
    · rintro ⟨w, h⟩
      exact ⟨⟨key, w⟩, create_eq_ok_iff.2 ⟨rfl, h⟩⟩
  result t f := by
    rw [create_eq_ok_iff, Value.convert_eq_ok_iff]
    exact and_left_comm
  again t f hf := by
    obtain ⟨hkey, hv⟩ := create_eq_ok_iff.1 hf
    obtain ⟨rfl, -⟩ := Value.convert_eq_ok_iff.1 hv
    exact create_eq_ok_iff.2 ⟨hkey, f.value.convert_type⟩
  refused t e := by
    rw [create_eq_error_iff, Value.convert_eq_error_iff]
  through t u key' hfits := by
    obtain ⟨w, hw⟩ := Value.exists_convert_iff.2 hfits
    have halike := (Value.convert_eq_ok_iff.1 hw).2
    have hfirst : create (.int t) key' v = .ok ⟨key', w⟩ := create_eq_ok_iff.2 ⟨rfl, hw⟩
    rw [hfirst]
    change create (.int u) key w = create (.int u) key v
    rw [create, create, halike.convert]
  words t u n := by
    rintro rfl
    rw [Value.narrow_eq, Value.toNat_widen]
    rfl

end Field

end EchoProbe
