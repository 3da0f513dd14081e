import EchoProbe.Field

/-!
# The wire format

On the wire an integer takes the bytes of its type, the highest first, and a text takes the code of
its characters. Every value can be read back, and nothing else can be read.

* `Utf8` says that some bytes are the code of a text, and `Malformed` lists what can be wrong with
  bytes that are to be a value of some type;
* `Value.ofBytes_toBytes` and `Value.toBytes_of_ofBytes` say that reading and writing undo each
  other, and `Value.ofBytes_eq_error_iff` when reading fails;
* `Value.packed` shifts bytes into a machine word, and `Value.toNat_packed` says that the word is
  the number that they spell, as long as it has room for them;
* `Field.network_exact` puts this together for fields.
-/

namespace EchoProbe

/-- The bytes are the codes of some characters, one after the other. -/
def Utf8 (bs : List UInt8) : Prop := ∃ cs : List Char, cs.flatMap String.utf8EncodeChar = bs

/-- What is wrong with bytes that are to be a value of a type. -/
inductive Malformed : FieldType → List UInt8 → FieldError → Prop
  /-- The bytes are no text. -/
  | text {bs : List UInt8} : ¬Utf8 bs → Malformed .string bs .invalidString
  /-- There are too few or too many bytes, whatever they are. -/
  | length {t : IntType} {bs : List UInt8} : bs.length ≠ t.size →
      Malformed (.int t) bs (.invalidLength (.int t) t.size bs.length)
  /-- The one byte of an integer of four bits has a higher bit set. -/
  | nibble {b : UInt8} : 15 < b.toNat →
      Malformed (.int .int4) [b] (.outOfRange (.int .int4) b.toNat)

theorem IntType.two_pow_bits {t : IntType} (h : t ≠ .int4) : 2 ^ t.bits = (2 ^ 8) ^ t.size := by
  cases t with
  | int4 => exact absurd rfl h
  | _ => decide

namespace Value

variable {t : FieldType} {bs : List UInt8} {v : Value} {e : FieldError}

/-! ### Texts -/

theorem utf8_textBytes (s : String) : Utf8 (textBytes s) := by
  obtain ⟨b, ⟨cs, rfl⟩⟩ := s
  exact ⟨cs, by simp [textBytes, List.utf8Encode]⟩

theorem textBytes_injective {s u : String} (h : textBytes s = textBytes u) : s = u := by
  apply String.toByteArray_inj.1
  ext1
  simpa [textBytes] using h

/-- Some bytes are the bytes of a text, or they are not the code of one. -/
theorem fromUTF8?_cases (bs : List UInt8) :
    (∃ s, String.fromUTF8? ⟨bs.toArray⟩ = some s ∧ textBytes s = bs) ∨
      String.fromUTF8? ⟨bs.toArray⟩ = none ∧ ¬Utf8 bs := by
  by_cases h : (⟨bs.toArray⟩ : ByteArray).IsValidUTF8
  · exact .inl ⟨_, dif_pos h, rfl⟩
  · refine .inr ⟨dif_neg h, ?_⟩
    rintro ⟨cs, rfl⟩
    exact h ⟨cs, by ext1; simp [List.utf8Encode]⟩

/-! ### Integers -/

@[simp] theorem length_toBytes (v : Value) : v.toBytes.length = v.size := by
  cases v with
  | int t n => simp [toBytes, size]
  | string s => simp [toBytes, textBytes, size]

theorem ofByteDigits_toBytes (t : IntType) (n : Fin (2 ^ t.bits)) :
    ofByteDigits (int t n).toBytes = n.val := by
  have hdigits : (Radix.digits (2 ^ 8) t.size n.val).map (UInt8.toNat ∘ UInt8.ofNat) =
      Radix.digits (2 ^ 8) t.size n.val := by
    refine (List.map_congr_left ?_).trans (List.map_id _)
    intro d hd
    have hlt : d < 2 ^ 8 := Radix.lt_of_mem_digits (by decide) hd
    simp [Nat.mod_eq_of_lt hlt]
  rw [ofByteDigits, toBytes, List.map_map, hdigits]
  exact Radix.value_digits (Nat.lt_of_lt_of_le n.isLt t.two_pow_bits_le)

theorem lt_of_mem_map_toNat (bs : List UInt8) : ∀ d ∈ bs.map UInt8.toNat, d < 2 ^ 8 := by
  intro d hd
  obtain ⟨b, -, rfl⟩ := List.mem_map.1 hd
  exact b.toNat_lt

theorem ofByteDigits_lt (bs : List UInt8) : ofByteDigits bs < (2 ^ 8) ^ bs.length := by
  have h := Radix.value_lt (lt_of_mem_map_toNat bs)
  rwa [List.length_map] at h

theorem ofByteDigits_cons (b : UInt8) (bs : List UInt8) :
    ofByteDigits (b :: bs) = b.toNat * (2 ^ 8) ^ bs.length + ofByteDigits bs := by
  simp [ofByteDigits, Radix.value]

theorem toBytes_ofByteDigits {t : IntType} (hlen : bs.length = t.size)
    (h : ofByteDigits bs < 2 ^ t.bits) : (int t ⟨ofByteDigits bs, h⟩).toBytes = bs := by
  have hdigits := Radix.digits_value (lt_of_mem_map_toNat bs)
  have hback : UInt8.ofNat ∘ UInt8.toNat = id := by
    funext b
    simp
  rw [List.length_map, hlen] at hdigits
  simp [toBytes, ofByteDigits, hdigits, hback]

/-! ### Bytes in a machine word -/

/-- The word with one more byte at its low end. -/
def shiftIn (w : BitVec 128) (b : UInt8) : BitVec 128 := w <<< 8 ||| b.toBitVec.setWidth 128

/-- Some bytes in a word, the highest first. -/
def packed (bs : List UInt8) : BitVec 128 := bs.foldl shiftIn 0

/-- A byte takes the place of eight zeros, and none of the bits before them is lost while the
highest byte of the word is free. -/
theorem toNat_shiftIn {w : BitVec 128} (hw : w.toNat < 2 ^ 120) (b : UInt8) :
    (shiftIn w b).toNat = w.toNat * 2 ^ 8 + b.toNat := by
  have hb : b.toNat < 2 ^ 8 := b.toNat_lt
  have hbyte : (b.toBitVec.setWidth 128).toNat = b.toNat :=
    (BitVec.toNat_setWidth ..).trans (Nat.mod_eq_of_lt (Nat.lt_trans hb (by decide)))
  have hshift : (w <<< 8).toNat = 2 ^ 8 * w.toNat := by
    rw [BitVec.toNat_shiftLeft, Nat.shiftLeft_eq, Nat.mul_comm]
    exact Nat.mod_eq_of_lt (by omega)
  rw [shiftIn, BitVec.toNat_or, hshift, hbyte, ← Nat.two_pow_add_eq_or_of_lt hb, Nat.mul_comm]

theorem toNat_foldl_shiftIn {w : BitVec 128}
    (hw : (w.toNat + 1) * (2 ^ 8) ^ bs.length ≤ 2 ^ 128) :
    (bs.foldl shiftIn w).toNat = w.toNat * (2 ^ 8) ^ bs.length + ofByteDigits bs := by
  induction bs generalizing w with
  | nil => simp [ofByteDigits, Radix.value]
  | cons b bs ih =>
    have hb : b.toNat + 1 ≤ 2 ^ 8 := b.toNat_lt
    have hpow : 0 < (2 ^ 8) ^ bs.length := Nat.pow_pos (by decide)
    have hsucc : (2 ^ 8) ^ (bs.length + 1) = 2 ^ 8 * (2 ^ 8) ^ bs.length := Nat.pow_succ'
    rw [List.length_cons, hsucc, ← Nat.mul_assoc] at hw
    have hfree : w.toNat < 2 ^ 120 := by
      have h := Nat.le_trans (Nat.le_mul_of_pos_right _ hpow) hw
      omega
    have hpush := toNat_shiftIn hfree b
    have hroom : ((shiftIn w b).toNat + 1) * (2 ^ 8) ^ bs.length ≤ 2 ^ 128 := by
      refine Nat.le_trans (Nat.mul_le_mul_right _ ?_) hw
      omega
    calc ((b :: bs).foldl shiftIn w).toNat
        = (w.toNat * 2 ^ 8 + b.toNat) * (2 ^ 8) ^ bs.length + ofByteDigits bs := by
          rw [List.foldl_cons, ih hroom, hpush]
      _ = w.toNat * (2 ^ 8) ^ (bs.length + 1) + ofByteDigits (b :: bs) := by
          rw [Nat.add_mul, Nat.mul_assoc, ← hsucc, ofByteDigits_cons, Nat.add_assoc]

/-- **A word is the number that its bytes spell**, if there are no more of them than it has. -/
theorem toNat_packed (hlen : bs.length ≤ 16) : (packed bs).toNat = ofByteDigits bs := by
  have hroom : ((0 : BitVec 128).toNat + 1) * (2 ^ 8) ^ bs.length ≤ 2 ^ 128 :=
    calc ((0 : BitVec 128).toNat + 1) * (2 ^ 8) ^ bs.length
        = (2 ^ 8) ^ bs.length := Nat.one_mul _
      _ ≤ (2 ^ 8) ^ 16 := Nat.pow_le_pow_right (by decide) hlen
      _ = 2 ^ 128 := rfl
  rw [packed, toNat_foldl_shiftIn hroom]
  exact (congrArg (· + _) (Nat.zero_mul _)).trans (Nat.zero_add _)

/-! ### Both directions -/

theorem ofBytes_toBytes (v : Value) : ofBytes v.type v.toBytes = .ok v := by
  cases v with
  | int t n =>
    have hlen : (int t n).toBytes.length = t.size := length_toBytes _
    simp [ofBytes, type, hlen, ofByteDigits_toBytes, ofInteger]
  | string s =>
    rcases fromUTF8?_cases (textBytes s) with ⟨u, hu, hb⟩ | ⟨-, hn⟩
    · simp [ofBytes, type, toBytes, hu, textBytes_injective hb]
    · exact absurd (utf8_textBytes s) hn

theorem toBytes_of_ofBytes (h : ofBytes t bs = .ok v) : v.type = t ∧ v.toBytes = bs := by
  cases t with
  | int t =>
    simp only [ofBytes, ofInteger] at h
    split at h
    · rename_i hlen
      split at h
      · cases h
        exact ⟨rfl, toBytes_ofByteDigits hlen _⟩
      · cases h
    · cases h
  | string =>
    rcases fromUTF8?_cases bs with ⟨s, hs, hb⟩ | ⟨hn, -⟩
    · simp only [ofBytes, hs] at h
      cases h
      exact ⟨rfl, hb⟩
    · simp [ofBytes, hn] at h

theorem ofBytes_eq_ok_iff : ofBytes t bs = .ok v ↔ v.type = t ∧ v.toBytes = bs := by
  refine ⟨toBytes_of_ofBytes, ?_⟩
  rintro ⟨rfl, rfl⟩
  exact ofBytes_toBytes v

/-- Only the type with unused bits has bytes of the right number that spell too much. -/
theorem eq_nibble_of_two_pow_le {t : IntType} (hlen : bs.length = t.size)
    (h : ¬ofByteDigits bs < 2 ^ t.bits) :
    t = .int4 ∧ ∃ b, bs = [b] ∧ ofByteDigits bs = b.toNat := by
  by_cases ht : t = .int4
  · subst ht
    obtain ⟨b, rfl⟩ := List.length_eq_one_iff.1 hlen
    exact ⟨rfl, b, rfl, by simp [ofByteDigits, Radix.value]⟩
  · rw [IntType.two_pow_bits ht, ← hlen] at h
    exact absurd (ofByteDigits_lt bs) h

/-- **Reading fails exactly over malformed bytes**, and says what is wrong with them. -/
theorem ofBytes_eq_error_iff : ofBytes t bs = .error e ↔ Malformed t bs e := by
  constructor
  · intro h
    cases t with
    | int t =>
      simp only [ofBytes, ofInteger] at h
      split at h
      · rename_i hlen
        split at h
        · cases h
        · rename_i hbig
          obtain ⟨rfl, b, rfl, hb⟩ := eq_nibble_of_two_pow_le hlen hbig
          cases h
          rw [hb] at hbig ⊢
          exact .nibble (Nat.not_lt.1 hbig)
      · cases h
        exact .length ‹_›
    | string =>
      rcases fromUTF8?_cases bs with ⟨s, hs, -⟩ | ⟨hn, hbad⟩
      · simp [ofBytes, hs] at h
      · simp only [ofBytes, hn] at h
        cases h
        exact .text hbad
  · rintro (hbad | hlen | @⟨b, hb⟩)
    · rcases fromUTF8?_cases bs with ⟨s, -, hs⟩ | ⟨hn, -⟩
      · exact absurd (hs ▸ utf8_textBytes s) hbad
      · simp [ofBytes, hn]
    · simp [ofBytes, hlen]
    · have hbig : ¬b.toNat < 2 ^ IntType.int4.bits := Nat.not_lt.2 hb
      simp [ofBytes, ofInteger, ofByteDigits, Radix.value, IntType.size, hbig]

end Value

namespace Field

/-- The field has the type and the key, and its bytes are those given. -/
structure Spells (t : FieldType) (key : String) (bs : List UInt8) (f : Field) : Prop where
  type : f.type = t
  key : f.key = key
  bytes : f.toNetwork = bs

variable {t : FieldType} {key : String} {bs : List UInt8} {f g : Field} {e : FieldError}

theorem fromNetwork_eq_ok_iff : fromNetwork t key bs = .ok f ↔ f.Spells t key bs := by
  obtain ⟨k, v⟩ := f
  cases h : Value.ofBytes t bs with
  | error e =>
    simp only [fromNetwork, h, Except.map, reduceCtorEq, false_iff]
    rintro ⟨ht, -, hb⟩
    rw [Value.ofBytes_eq_ok_iff.2 ⟨ht, hb⟩] at h
    cases h
  | ok u =>
    simp only [fromNetwork, h, Except.map, Except.ok.injEq, mk.injEq]
    constructor
    · rintro ⟨rfl, rfl⟩
      obtain ⟨ht, hb⟩ := Value.toBytes_of_ofBytes h
      exact ⟨ht, rfl, hb⟩
    · rintro ⟨ht, rfl, hb⟩
      rw [Value.ofBytes_eq_ok_iff.2 ⟨ht, hb⟩] at h
      exact ⟨rfl, (Except.ok.inj h).symm⟩

theorem fromNetwork_eq_error_iff : fromNetwork t key bs = .error e ↔ Malformed t bs e := by
  rw [← Value.ofBytes_eq_error_iff, fromNetwork]
  cases Value.ofBytes t bs <;> simp [Except.map]

theorem Spells.unique (hf : f.Spells t key bs) (hg : g.Spells t key bs) : f = g :=
  Except.ok.inj ((fromNetwork_eq_ok_iff.2 hf).symm.trans (fromNetwork_eq_ok_iff.2 hg))

/-- **The wire format is exact.** A field is read back from its bytes, of which there are as many as
its size. Bytes are read exactly if they are those of some value of the type, and then as the one
field with this type, this key and these bytes. All others are refused for what is wrong with
them. -/
theorem network_exact :
    (∀ f : Field, fromNetwork f.type f.key f.toNetwork = .ok f ∧ f.toNetwork.length = f.size) ∧
    ∀ (t : FieldType) (key : String) (bs : List UInt8),
      ((∃ f, fromNetwork t key bs = .ok f) ↔ ∃ v : Value, v.type = t ∧ v.toBytes = bs) ∧
      (∀ f, fromNetwork t key bs = .ok f ↔ f.Spells t key bs) ∧
      (∀ f g : Field, f.Spells t key bs → g.Spells t key bs → f = g) ∧
      ∀ e, fromNetwork t key bs = .error e ↔ Malformed t bs e := by
  refine ⟨?_, ?_⟩
  · intro f
    exact ⟨fromNetwork_eq_ok_iff.2 ⟨rfl, rfl, rfl⟩, Value.length_toBytes _⟩
  · intro t key bs
    refine ⟨?_, fun f => fromNetwork_eq_ok_iff, fun f g => Spells.unique, fun e =>
      fromNetwork_eq_error_iff⟩
    constructor
    · rintro ⟨f, hf⟩
      obtain ⟨ht, -, hb⟩ := fromNetwork_eq_ok_iff.1 hf
      exact ⟨f.value, ht, hb⟩
    · rintro ⟨v, ht, hb⟩
      exact ⟨⟨key, v⟩, fromNetwork_eq_ok_iff.2 ⟨ht, rfl, hb⟩⟩

end Field

end EchoProbe
