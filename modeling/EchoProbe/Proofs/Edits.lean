import EchoProbe.Probe
import EchoProbe.Proofs.Wire
import Mathlib.Data.List.Basic
import Mathlib.Data.List.Induction

/-!
# What edits make of a probe

A probe is built by edits: a field is set, or a time, or the delay. What it shows in the end can be
read off the edits.

* `Edit` is an edit and `Probe.edited` makes some, one after the other;
* `FieldTable.toList_ofList` says what fields are in a table: under each key the last that was set,
  in the order in which the keys first came, and `entriesOf_eq` that a map with keys apart from its
  fields would hold no more than that;
* `Probe.Shows` says what a probe shows of the edits that made it;
* `Rack` holds probes in numbered places, `Rack.lineage` are the edits that a probe goes back to, in
  its place or, behind a duplication, in that of the original, and `Rack.run_kept` says that every
  probe shows just these.
-/

namespace EchoProbe

/-! ### Fields set one after the other -/

/-- The last of some fields with a key. -/
def lastWith? (fs : List Field) (key : String) : Option Field := fs.reverse.find? (·.key = key)

/-- The keys of some fields, each where it first comes. -/
def firstKeys (fs : List Field) : List String := (fs.map Field.key).eraseDups

theorem lastWith?_concat (fs : List Field) (f : Field) (key : String) :
    lastWith? (fs ++ [f]) key = if f.key = key then some f else lastWith? fs key := by
  simp only [lastWith?, List.reverse_append, List.reverse_singleton, List.singleton_append,
    List.find?_cons]
  by_cases h : f.key = key <;> simp [h]

theorem firstKeys_concat (fs : List Field) (f : Field) :
    firstKeys (fs ++ [f]) =
      if f.key ∈ fs.map Field.key then firstKeys fs else firstKeys fs ++ [f.key] := by
  rw [firstKeys, List.map_append, List.eraseDups_append, List.map_singleton]
  by_cases h : f.key ∈ fs.map Field.key
  · have hdrop : [f.key].removeAll (fs.map Field.key) = [] := by
      simp [List.removeAll, h, -List.mem_map]
    rw [hdrop, if_pos h, List.eraseDups_nil, List.append_nil, firstKeys]
  · have hkeep : [f.key].removeAll (fs.map Field.key) = [f.key] := by
      simp [List.removeAll, h, -List.mem_map]
    rw [hkeep, if_neg h, List.eraseDups_cons, firstKeys]
    rfl

namespace FieldTable

theorem ofList_concat (fs : List Field) (f : Field) : ofList (fs ++ [f]) = (ofList fs).set f := by
  rw [ofList, List.foldl_append]
  rfl

theorem map_key_ofList (fs : List Field) : (ofList fs).toList.map Field.key = firstKeys fs := by
  induction fs using List.reverseRecOn with
  | nil => rfl
  | append_singleton fs f ih =>
    have hmem : f.key ∈ firstKeys fs ↔ f.key ∈ fs.map Field.key := List.mem_eraseDups
    rw [ofList_concat, firstKeys_concat]
    change (setField (ofList fs).toList f).map Field.key = _
    rw [map_key_setField, ih]
    simp only [hmem]

theorem find?_ofList (fs : List Field) (key : String) :
    (ofList fs).find? key = lastWith? fs key := by
  induction fs using List.reverseRecOn with
  | nil => rfl
  | append_singleton fs f ih => rw [ofList_concat, find?_set, lastWith?_concat, ih]

/-- A table is known by its keys in order and by what is found under them. -/
theorem filterMap_find? (t : FieldTable) :
    (t.toList.map Field.key).filterMap t.find? = t.toList := by
  rw [List.filterMap_map]
  have hown : ∀ f ∈ t.toList, (t.find? ∘ Field.key) f = some f :=
    fun f hf => find?_eq_some_iff.2 ⟨hf, rfl⟩
  rw [List.filterMap_congr hown, List.filterMap_some]

/-- **The last field under each key, in the order in which the keys first came.** -/
theorem toList_ofList (fs : List Field) :
    (ofList fs).toList = (firstKeys fs).filterMap (lastWith? fs) := by
  rw [← filterMap_find?, map_key_ofList]
  exact List.filterMap_congr fun key _ => find?_ofList fs key

theorem foldl_size (n : Nat) (fs : List Field) :
    fs.foldl (fun n f => n + f.size) n = n + (fs.flatMap Field.toNetwork).length := by
  induction fs generalizing n with
  | nil => rfl
  | cons f fs ih =>
    have hf : f.toNetwork.length = f.size := Value.length_toBytes _
    rw [List.foldl_cons, ih, List.flatMap_cons, List.length_append, hf, Nat.add_assoc]

theorem size_eq (t : FieldTable) : t.size = (t.toList.flatMap Field.toNetwork).length := by
  rw [size, foldl_size, Nat.zero_add]

end FieldTable

/-! ### Keys apart from fields -/

/-- Puts a field under a key: in the place of the one that is there, or else last. -/
def insertEntry : List (String × Field) → String → Field → List (String × Field)
  | [], key, f => [(key, f)]
  | e :: es, key, f => if e.1 = key then (e.1, f) :: es else e :: insertEntry es key f

/-- The entries of a map into which fields are put, each under its key. -/
def entriesOf (fs : List Field) : List (String × Field) :=
  fs.foldl (fun es f => insertEntry es f.key f) []

theorem insertEntry_map (fs : List Field) (f : Field) :
    insertEntry (fs.map fun g => (g.key, g)) f.key f =
      (setField fs f).map fun g => (g.key, g) := by
  induction fs with
  | nil => rfl
  | cons g gs ih =>
    rw [List.map_cons, insertEntry, setField]
    by_cases h : g.key = f.key
    · simp [h]
    · simp [h, ih]

/-- **No field comes to stand under another key than its own.** -/
theorem entriesOf_eq (fs : List Field) :
    entriesOf fs = (FieldTable.ofList fs).toList.map fun f => (f.key, f) := by
  induction fs using List.reverseRecOn with
  | nil => rfl
  | append_singleton fs f ih =>
    have hstep : entriesOf (fs ++ [f]) = insertEntry (entriesOf fs) f.key f := by
      rw [entriesOf, List.foldl_append]
      rfl
    rw [hstep, ih, insertEntry_map, FieldTable.ofList_concat]
    rfl

/-! ### Edits -/

/-- An edit of a probe. -/
inductive Edit
  | field (f : Field)
  | sent (time : Instant)
  | received (time : Instant)
  | delay (d : Delay)

namespace Edit

/-- The field that is set. -/
def field? : Edit → Option Field
  | field f => some f
  | _ => none

/-- The time of sending that is set. -/
def sent? : Edit → Option Instant
  | sent time => some time
  | _ => none

/-- The time of receipt that is set. -/
def received? : Edit → Option Instant
  | received time => some time
  | _ => none

/-- The delay that is set. -/
def delay? : Edit → Option Delay
  | delay d => some d
  | _ => none

/-- The fields that are set, in order. -/
def fields (es : List Edit) : List Field := es.filterMap field?

end Edit

namespace Probe

/-- Makes an edit. -/
def edit (p : Probe) : Edit → Probe
  | .field f => p.setField f
  | .sent time => p.setSent time
  | .received time => p.setReceived time
  | .delay d => p.setDelay d

/-- Makes some edits, one after the other. -/
def edited (p : Probe) (es : List Edit) : Probe := es.foldl edit p

/-- What a probe shows of the edits that made it. -/
structure Shows (p : Probe) (es : List Edit) : Prop where
  /-- Under each key there is the last field set, and the keys are in the order in which they first
  came. -/
  fields : p.fields.toList = (firstKeys (Edit.fields es)).filterMap (lastWith? (Edit.fields es))
  /-- Each key that came is there once. -/
  keys : p.fields.toList.map Field.key = firstKeys (Edit.fields es)
  nodup : (firstKeys (Edit.fields es)).Nodup
  mem (key : String) : key ∈ firstKeys (Edit.fields es) ↔ ∃ f, .field f ∈ es ∧ f.key = key
  /-- Under a key, the last field set is found, or none if none was. -/
  find (key : String) : p.fields.find? key = lastWith? (Edit.fields es) key
  /-- Keys that are kept apart from the fields are those of the fields. -/
  entries : entriesOf (Edit.fields es) = p.fields.toList.map fun f => (f.key, f)
  own (key : String) (f : Field) :
    p.fields.find? key = some f ↔ f ∈ p.fields.toList ∧ f.key = key
  length : p.fields.length = (firstKeys (Edit.fields es)).length
  /-- The size is that of all fields on the wire. -/
  size : p.size = (p.fields.toList.flatMap Field.toNetwork).length
  sent : p.sent = (es.filterMap Edit.sent?).getLast?
  received : p.received = (es.filterMap Edit.received?).getLast?
  delay : p.delay = (es.filterMap Edit.delay?).getLast?.getD .bestEffort

theorem edited_concat (p : Probe) (es : List Edit) (e : Edit) :
    p.edited (es ++ [e]) = (p.edited es).edit e := by
  rw [edited, List.foldl_append]
  rfl

theorem fields_edited (es : List Edit) :
    (empty.edited es).fields = .ofList (Edit.fields es) := by
  induction es using List.reverseRecOn with
  | nil => rfl
  | append_singleton es e ih =>
    rw [edited_concat, Edit.fields, List.filterMap_append]
    cases e with
    | field f =>
      change (empty.edited es).fields.set f = .ofList (Edit.fields es ++ [f])
      rw [FieldTable.ofList_concat, ih]
    | sent | received | delay =>
      change (empty.edited es).fields = .ofList (Edit.fields es ++ [])
      rw [List.append_nil, ih]

/-- What an edit sets, if it sets it at all, is in the end what the last such edit has set. -/
theorem read_edited {α : Type} (get : Probe → Option α) (set? : Edit → Option α)
    (h : ∀ p e, get (edit p e) = (set? e).or (get p)) (p : Probe) (es : List Edit) :
    get (p.edited es) = (es.filterMap set?).getLast?.or (get p) := by
  induction es using List.reverseRecOn with
  | nil => rfl
  | append_singleton es e ih =>
    have hlast : ((es ++ [e]).filterMap set?).getLast? =
        (set? e).or (es.filterMap set?).getLast? := by
      rw [List.filterMap_append]
      cases he : set? e <;> simp [he]
    rw [edited_concat, h, ih, hlast, Option.or_assoc]

theorem sent_edited (es : List Edit) :
    (empty.edited es).sent = (es.filterMap Edit.sent?).getLast? := by
  rw [read_edited sent Edit.sent? (fun _ e => by cases e <;> rfl)]
  exact Option.or_none

theorem received_edited (es : List Edit) :
    (empty.edited es).received = (es.filterMap Edit.received?).getLast? := by
  rw [read_edited received Edit.received? (fun _ e => by cases e <;> rfl)]
  exact Option.or_none

theorem delay_edited (es : List Edit) :
    (empty.edited es).delay = (es.filterMap Edit.delay?).getLast?.getD .bestEffort := by
  have h := read_edited (some ·.delay) Edit.delay? (fun _ e => by cases e <;> rfl) empty es
  rw [Option.or_some] at h
  exact Option.some.inj h

theorem mem_firstKeys_fields {es : List Edit} {key : String} :
    key ∈ firstKeys (Edit.fields es) ↔ ∃ f, .field f ∈ es ∧ f.key = key := by
  rw [firstKeys, List.mem_eraseDups, List.mem_map]
  refine exists_congr fun f => and_congr_left' ?_
  rw [Edit.fields, List.mem_filterMap]
  constructor
  · rintro ⟨e, he, hf⟩
    cases e with
    | field g =>
      cases hf
      exact he
    | sent | received | delay => cases hf
  · intro hf
    exact ⟨_, hf, rfl⟩

/-- **A probe shows the edits that made it**, and nothing else. -/
theorem shows_edited (es : List Edit) : (empty.edited es).Shows es where
  fields := by rw [fields_edited, FieldTable.toList_ofList]
  keys := by rw [fields_edited, FieldTable.map_key_ofList]
  nodup := by
    rw [← FieldTable.map_key_ofList]
    exact (FieldTable.ofList _).nodup
  mem _ := mem_firstKeys_fields
  find key := by rw [fields_edited, FieldTable.find?_ofList]
  entries := by rw [fields_edited, entriesOf_eq]
  own _ _ := FieldTable.find?_eq_some_iff
  length := by rw [← FieldTable.map_key_ofList, List.length_map, fields_edited, FieldTable.length]
  size := FieldTable.size_eq _
  sent := sent_edited es
  received := received_edited es
  delay := delay_edited es

/-- A field that is replaced keeps its place, whatever the type of the new one. -/
example :
    (empty.edited [.field (.int .int8 "ttl" 64), .field (.string "protocol" "icmp"),
      .delay .bestEffort, .field (.int .int16 "ttl" 3)]).fields.toList =
        [.int .int16 "ttl" 3, .string "protocol" "icmp"] := by
  decide +kernel

end Probe

/-! ### Duplicates -/

/-- What is done to probes in numbered places. -/
inductive Work
  /-- The probe in a place is edited. -/
  | edit (place : Nat) (e : Edit)
  /-- A duplicate of the probe in one place is put in another. -/
  | duplicate (source place : Nat)

/-- Probes in numbered places. -/
abbrev Rack : Type := Nat → Probe

namespace Rack

/-- Puts a probe in a place. -/
def put (r : Rack) (place : Nat) (p : Probe) : Rack := fun k => if k = place then p else r k

/-- Does what is to be done. -/
def next (r : Rack) : Work → Rack
  | .edit place e => r.put place ((r place).edit e)
  | .duplicate source place => r.put place (r source)

/-- The probes after some work, from empty ones. -/
def run (ws : List Work) : Rack := ws.foldl next fun _ => .empty

/-- The edits that the probe in a place goes back to. The work is traced from the last to the first,
and behind a duplication the trace goes on in the place of the original. -/
def lineage : List Work → Nat → List Edit
  | [], _ => []
  | .edit place e :: past, k => lineage past k ++ if k = place then [e] else []
  | .duplicate source place :: past, k => lineage past (if k = place then source else k)

/-- Edits in various places, as work. -/
def edits (es : List (Nat × Edit)) : List Work := es.map fun x => .edit x.1 x.2

/-- The edits among some that are made in a place. -/
def editsAt (es : List (Nat × Edit)) (k : Nat) : List Edit :=
  es.filterMap fun x => if k = x.1 then some x.2 else none

theorem run_concat (ws : List Work) (w : Work) : run (ws ++ [w]) = (run ws).next w := by
  rw [run, List.foldl_append]
  rfl

/-- Each probe is made by the edits that it goes back to. -/
theorem run_eq_edited (ws : List Work) (k : Nat) :
    run ws k = Probe.empty.edited (lineage ws.reverse k) := by
  induction ws using List.reverseRecOn generalizing k with
  | nil => rfl
  | append_singleton ws w ih =>
    rw [run_concat, List.reverse_append, List.reverse_singleton, List.singleton_append]
    cases w with
    | edit place e =>
      rw [lineage]
      by_cases h : k = place
      · rw [if_pos h, Probe.edited_concat, ← ih, h]
        exact if_pos rfl
      · rw [if_neg h, List.append_nil, ← ih]
        exact if_neg h
    | duplicate source place =>
      rw [lineage, ← ih]
      by_cases h : k = place
      · rw [if_pos h]
        exact if_pos h
      · rw [if_neg h]
        exact if_neg h

theorem run_append_edits (ws : List Work) (es : List (Nat × Edit)) (k : Nat) :
    run (ws ++ edits es) k = (run ws k).edited (editsAt es k) := by
  induction es using List.reverseRecOn with
  | nil =>
    rw [edits, List.map_nil, List.append_nil]
    rfl
  | append_singleton es x ih =>
    have hstep : ws ++ edits (es ++ [x]) = (ws ++ edits es) ++ [.edit x.1 x.2] := by
      simp [edits]
    rw [hstep, run_concat, editsAt, List.filterMap_append]
    by_cases h : k = x.1
    · have hlast : [x].filterMap (fun x => if k = x.1 then some x.2 else none) = [x.2] := by
        simp [h]
      rw [hlast, Probe.edited_concat, ← editsAt, ← ih, h]
      exact if_pos rfl
    · have hnone : [x].filterMap (fun x => if k = x.1 then some x.2 else none) = [] := by
        simp [h]
      rw [hnone, List.append_nil, ← editsAt, ← ih]
      exact if_neg h

/-- What holds of probes in their places after some work. -/
structure Kept (ws : List Work) : Prop where
  /-- Every probe shows the edits that it goes back to. -/
  shows (k : Nat) : (run ws k).Shows (lineage ws.reverse k)
  /-- An original stays as it was, and its duplicate starts equal to it. -/
  duplicate (i j : Nat) :
    run (ws ++ [.duplicate i j]) i = run ws i ∧ run (ws ++ [.duplicate i j]) j = run ws i
  /-- From then on, each shows the edits in its own place and none of those in the other. -/
  apart (i j : Nat) (es : List (Nat × Edit)) :
    run (ws ++ [.duplicate i j] ++ edits es) i = (run ws i).edited (editsAt es i) ∧
      run (ws ++ [.duplicate i j] ++ edits es) j = (run ws i).edited (editsAt es j)
  /-- To set a field leaves the times and the delay alone. -/
  field (k : Nat) (f : Field) :
    (run (ws ++ [.edit k (.field f)]) k).sent = (run ws k).sent ∧
      (run (ws ++ [.edit k (.field f)]) k).received = (run ws k).received ∧
      (run (ws ++ [.edit k (.field f)]) k).delay = (run ws k).delay
  /-- To set those leaves the fields alone. -/
  other (k : Nat) (e : Edit) : e.field? = none →
    (run (ws ++ [.edit k e]) k).fields = (run ws k).fields

theorem run_duplicate (ws : List Work) (i j : Nat) :
    run (ws ++ [.duplicate i j]) i = run ws i ∧ run (ws ++ [.duplicate i j]) j = run ws i := by
  rw [run_concat]
  refine ⟨?_, if_pos rfl⟩
  change (if i = j then run ws i else run ws i) = run ws i
  exact ite_self _

theorem run_edit (ws : List Work) (k : Nat) (e : Edit) :
    run (ws ++ [.edit k e]) k = (run ws k).edit e := by
  rw [run_concat]
  exact if_pos rfl

/-- **A probe is a map of fields in the order of their first insertion,** whatever edits are made
and whatever duplicates are taken in between. -/
theorem run_kept (ws : List Work) : Kept ws where
  shows k := by
    rw [run_eq_edited]
    exact Probe.shows_edited _
  duplicate := run_duplicate ws
  apart i j es := by
    obtain ⟨hi, hj⟩ := run_duplicate ws i j
    rw [run_append_edits, run_append_edits, hi, hj]
    exact ⟨rfl, rfl⟩
  field k f := by
    rw [run_edit]
    exact ⟨rfl, rfl, rfl⟩
  other k e he := by
    rw [run_edit]
    cases e with
    | field f => cases he
    | sent | received | delay => rfl

end Rack

end EchoProbe
