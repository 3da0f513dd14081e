import Mathlib.Logic.ExistsUnique
import EchoProbe.Proofs.Edits

/-!
# What is taken out of a field

A content can be taken out of a value under each of eight types, and out of a probe under a key.

* `Value.Sealed`, `Probe.Keeps` and `Probe.Recalls` say what comes out of a value, of a probe after
  a field was set, and of a probe after any edits;
* `extraction_lossless` says that this is so of all of them.
-/

namespace EchoProbe

/-! ### Values -/

namespace Value

/-- What can be taken out of a value. -/
structure Sealed (v : Value) : Prop where
  /-- A content comes out under exactly one of the eight types, -/
  one : ∃! t, t ∈ FieldType.all ∧ ∃ x : t.Content, v.extract t = .ok x
  /-- of which the value can be made again. -/
  lossless (t : FieldType) (x : t.Content) : v.extract t = .ok x ↔ v = ofContent t x
  /-- Every other type is refused, with its name and that of the value's own. Types of one width
  are no exception. -/
  exclusive (t : FieldType) (e : FieldError) :
    v.extract t = .error e ↔ t ≠ v.type ∧ e = .typeMismatch t v.type

theorem sealed (v : Value) : v.Sealed where
  one := by
    obtain ⟨x, hx, -⟩ := v.exists_extract
    refine ⟨v.type, ⟨List.mem_of_getElem? v.type.getElem?_all_tag, x, hx⟩, ?_⟩
    rintro t ⟨-, y, hy⟩
    refine Classical.byContradiction fun hne => ?_
    rw [extract_of_ne hne] at hy
    cases hy
  lossless _ _ := extract_eq_ok_iff
  exclusive _ _ := extract_eq_error_iff

end Value

/-! ### Probes -/

namespace Probe

theorem extract?_eq_some_iff_extract {p : Probe} {t : FieldType} {key : String} {x : t.Content} :
    p.extract? t key = some x ↔ p.extract t key = .ok x := by
  rw [extract?]
  cases p.extract t key <;> simp [Except.toOption]

theorem extract_setField (p : Probe) (f : Field) (t : FieldType) (key : String) :
    (p.setField f).extract t key = if f.key = key then f.value.extract t else p.extract t key := by
  rw [extract, value_setField]
  split <;> rfl

theorem address_setField_of_ne (p : Probe) {f : Field} {key : String} (h : f.key ≠ key) :
    (p.setField f).address key = p.address key := by
  rw [address, address, value_setField, if_neg h]

/-- What a probe holds after a content of the type `t` was set under a key. -/
structure Keeps (p : Probe) (key : String) (t : FieldType) (x : t.Content) : Prop where
  /-- The content comes out again, -/
  own : (p.setField ⟨key, .ofContent t x⟩).extract t key = .ok x
  /-- and nothing else does under this key, -/
  other (u : FieldType) : u ≠ t →
    (p.setField ⟨key, .ofContent t x⟩).extract u key = .error (.typeMismatch u t)
  /-- while under all other keys everything is what it was before. -/
  frame (u : FieldType) (key' : String) : key' ≠ key →
    (p.setField ⟨key, .ofContent t x⟩).extract u key' = p.extract u key'
  frameAddress (key' : String) : key' ≠ key →
    (p.setField ⟨key, .ofContent t x⟩).address key' = p.address key'

theorem keeps (p : Probe) (key : String) (t : FieldType) (x : t.Content) : p.Keeps key t x where
  own := by
    rw [extract_setField, if_pos rfl]
    exact Value.extract_ofContent t x
  other u h := by
    rw [extract_setField, if_pos rfl]
    have hne : u ≠ (Value.ofContent t x).type := by
      rw [Value.type_ofContent]
      exact h
    rw [Value.extract_of_ne hne, Value.type_ofContent]
  frame u key' h := by
    rw [extract_setField]
    exact if_neg h.symm
  frameAddress key' h := p.address_setField_of_ne h.symm

/-- What comes out of a probe that was made by some edits. -/
structure Recalls (es : List Edit) (key : String) (t : FieldType) : Prop where
  /-- It is what was put in with the last field that was set, -/
  last (f : Field) : lastWith? (Edit.fields es) key = some f →
    (empty.edited es).extract t key = f.value.extract t
  /-- and the key is not found exactly if none was. -/
  never : (empty.edited es).extract t key = .error (.keyNotFound key) ↔
    ∀ f, .field f ∈ es → f.key ≠ key
  /-- Where a failure is taken as a lack of information, the same comes out, -/
  present (x : t.Content) :
    (empty.edited es).extract? t key = some x ↔ (empty.edited es).extract t key = .ok x
  /-- and nothing else. -/
  absent : (empty.edited es).extract? t key = none ↔
    ∃ e, (empty.edited es).extract t key = .error e

theorem lastWith?_eq_none_iff {es : List Edit} {key : String} :
    lastWith? (Edit.fields es) key = none ↔ ∀ f, .field f ∈ es → f.key ≠ key := by
  have hkeys : lastWith? (Edit.fields es) key = none ↔ key ∉ firstKeys (Edit.fields es) := by
    simp [lastWith?, firstKeys, List.mem_eraseDups]
  rw [hkeys, mem_firstKeys_fields]
  simp only [not_exists, not_and, ne_eq]

theorem extract_edited (es : List Edit) (t : FieldType) (key : String) :
    (empty.edited es).extract t key = match lastWith? (Edit.fields es) key with
      | some f => f.value.extract t
      | none => .error (.keyNotFound key) := by
  rw [extract, value, (shows_edited es).find]
  cases lastWith? (Edit.fields es) key <;> rfl

theorem recalls (es : List Edit) (key : String) (t : FieldType) : Recalls es key t where
  last f hf := by rw [extract_edited, hf]
  never := by
    rw [← lastWith?_eq_none_iff, extract_edited]
    cases hf : lastWith? (Edit.fields es) key with
    | none => simp
    | some f =>
      -- a value that is found is refused for its type only
      refine iff_of_false (fun h => ?_) (Option.some_ne_none f)
      cases (Value.extract_eq_error_iff.1 h).2
  present _ := extract?_eq_some_iff_extract
  absent := by
    rw [extract?]
    cases (empty.edited es).extract t key <;> simp [Except.toOption]

end Probe

/-- **What is put into a field comes out again, and under its own type only.** -/
theorem extraction_lossless :
    (∀ v : Value, v.Sealed) ∧
      (∀ (p : Probe) (key : String) (t : FieldType) (x : t.Content), p.Keeps key t x) ∧
      ∀ (es : List Edit) (key : String) (t : FieldType), Probe.Recalls es key t :=
  ⟨Value.sealed, Probe.keeps, Probe.recalls⟩

/-- Two types of one width do not stand for each other. -/
example :
    (Value.ofContent (.int .int64) 7).extract (.int .intmax) =
      .error (.typeMismatch (.int .intmax) (.int .int64)) := by
  decide

end EchoProbe
