import EchoProbe.Field

/-!
# Tables of fields

A `FieldTable` holds fields under distinct keys, in the order in which the keys came.

* `FieldTable.set` puts a field in the place of the one with its key, or else last;
* `FieldTable.find?` is the field with a key;
* `FieldTable.same` says whether two tables hold the same fields, in whatever order.

Both follow maps that keep the order in which keys are inserted: an insertion under a key that is
there replaces the value and leaves the key in its place, one under a new key comes last, and two
maps are equal if they have equal lengths and each value of the one is that of the other under the
same key, so that their orders do not count.
-/

namespace EchoProbe

/-- Puts a field in the place of the one with its key, or else last. -/
def setField : List Field → Field → List Field
  | [], f => [f]
  | g :: gs, f => if g.key = f.key then f :: gs else g :: setField gs f

theorem map_key_setField (fs : List Field) (f : Field) :
    (setField fs f).map Field.key =
      if f.key ∈ fs.map Field.key then fs.map Field.key else fs.map Field.key ++ [f.key] := by
  induction fs with
  | nil => simp [setField]
  | cons g gs ih =>
    by_cases h : g.key = f.key
    · simp [setField, h]
    · have h' : f.key ≠ g.key := fun e => h e.symm
      simp only [setField, h, ite_false, List.map_cons, ih, List.mem_cons, h', false_or]
      split <;> simp

/-- Fields under distinct keys, in the order in which the keys came. -/
structure FieldTable where
  /-- The fields. -/
  toList : List Field
  /-- No two fields have the same key. -/
  nodup : (toList.map Field.key).Nodup

namespace FieldTable

/-- The table without fields. -/
def empty : FieldTable := ⟨[], by simp⟩

/-- Puts a field in the place of the one with its key, or else last. -/
def set (t : FieldTable) (f : Field) : FieldTable :=
  ⟨setField t.toList f, by
    rw [map_key_setField]
    split
    · exact t.nodup
    · rename_i h
      rw [List.nodup_append]
      refine ⟨t.nodup, by simp, ?_⟩
      intro a ha b hb e
      rw [List.mem_singleton.1 hb] at e
      exact h (e ▸ ha)⟩

/-- The table of some fields, set one after the other. -/
def ofList (fs : List Field) : FieldTable := fs.foldl set empty

/-- The field with a key. -/
def find? (t : FieldTable) (key : String) : Option Field := t.toList.find? (·.key = key)

/-- The number of fields. -/
def length (t : FieldTable) : Nat := t.toList.length

/-- The number of bytes of all fields on the wire. -/
def size (t : FieldTable) : Nat := t.toList.foldl (fun n f => n + f.size) 0

/-- Both tables hold the same fields. -/
def same (t u : FieldTable) : Bool :=
  t.length == u.length && t.toList.all fun f => u.find? f.key == some f

theorem find?_setField (fs : List Field) (f : Field) (key : String) :
    (setField fs f).find? (·.key = key) =
      if f.key = key then some f else fs.find? (·.key = key) := by
  induction fs with
  | nil => by_cases h : f.key = key <;> simp [setField, h]
  | cons g gs ih =>
    by_cases hg : g.key = f.key
    · by_cases h : f.key = key <;> simp [setField, hg, h]
    · rw [setField, if_neg hg, List.find?_cons, ih, List.find?_cons]
      by_cases hk : g.key = key
      · have h : f.key ≠ key := fun e => hg (hk.trans e.symm)
        simp [hk, h]
      · simp [hk]

theorem find?_set (t : FieldTable) (f : Field) (key : String) :
    (t.set f).find? key = if f.key = key then some f else t.find? key :=
  find?_setField t.toList f key

theorem find?_eq_some_iff {t : FieldTable} {key : String} {f : Field} :
    t.find? key = some f ↔ f ∈ t.toList ∧ f.key = key := by
  constructor
  · intro h
    exact ⟨List.mem_of_find?_eq_some h, by simpa using List.find?_some h⟩
  · rintro ⟨hmem, rfl⟩
    have hnodup := t.nodup
    unfold find?
    generalize t.toList = fs at hmem hnodup
    induction fs with
    | nil => cases hmem
    | cons g gs ih =>
      rw [List.map_cons, List.nodup_cons] at hnodup
      rcases List.mem_cons.1 hmem with rfl | hmem
      · simp
      · -- the first field has another key
        have hne : g.key ≠ f.key := fun h => hnodup.1 (h ▸ List.mem_map_of_mem hmem)
        rw [List.find?_cons_of_neg (by simpa using hne)]
        exact ih hmem hnodup.2

theorem find?_eq_of_perm {t u : FieldTable} (h : u.toList.Perm t.toList)
    (key : String) : u.find? key = t.find? key := by
  refine Option.ext fun f => ?_
  rw [find?_eq_some_iff, find?_eq_some_iff, h.mem_iff]

end FieldTable

end EchoProbe
