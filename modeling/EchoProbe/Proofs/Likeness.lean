import EchoProbe.Proofs.Diagnosis
import EchoProbe.Proofs.Edits
import Mathlib.Data.List.Nodup
import Mathlib.Data.List.Perm.Subperm

/-!
# Equality of probes

Two probes are equal if they hold equal fields under the same keys, in whatever order, and were sent
and received at the same times and with the same delay. Nothing that is read off a probe, short of
the order itself, tells equal ones apart.

* `FieldTable.same_iff_perm` says that tables are the same if one is the other in another order;
* `Probe.Like` says what equal probes have in common, and `Probe.Indistinct` where this shows;
* `Probe.Congruence` says what equality has to satisfy, and `Probe.same_congruence` that it does.
-/

namespace EchoProbe

namespace FieldTable

variable {t u : FieldTable}

theorem nodup_toList (t : FieldTable) : t.toList.Nodup := t.nodup.of_map

theorem same_iff_perm : t.same u = true ↔ t.toList.Perm u.toList := by
  simp only [same, length, Bool.and_eq_true, beq_iff_eq, List.all_eq_true, find?_eq_some_iff]
  constructor
  · rintro ⟨hlen, hfound⟩
    have hsub : t.toList.Subperm u.toList := t.nodup_toList.subperm fun f hf => (hfound f hf).1
    -- fields that are all found, as many as there are, are all the fields
    exact hsub.perm_of_length_le (Nat.le_of_eq hlen.symm)
  · intro h
    exact ⟨h.length_eq, fun f hf => ⟨h.mem_iff.1 hf, trivial⟩⟩

theorem perm_iff_find? : t.toList.Perm u.toList ↔ ∀ key, t.find? key = u.find? key := by
  constructor
  · intro h key
    exact find?_eq_of_perm h key
  · intro h
    refine (List.perm_ext_iff_of_nodup t.nodup_toList u.nodup_toList).2 fun f => ?_
    have hself {w : FieldTable} : w.find? f.key = some f ↔ f ∈ w.toList := by
      rw [find?_eq_some_iff]
      exact and_iff_left rfl
    rw [← hself, h, hself]

end FieldTable

namespace Probe

variable {p q r : Probe}

/-- What equal probes have in common. -/
structure Like (p q : Probe) : Prop where
  /-- Under each key there are equal fields, or none. -/
  fields (key : String) : p.fields.find? key = q.fields.find? key
  sent : p.sent = q.sent
  received : p.received = q.received
  delay : p.delay = q.delay

theorem same_iff : p.same q = true ↔
    p.fields.toList.Perm q.fields.toList ∧ p.sent = q.sent ∧ p.received = q.received ∧
      p.delay = q.delay := by
  simp only [same, Bool.and_eq_true, FieldTable.same_iff_perm, beq_iff_eq, and_assoc]

theorem same_iff_like : p.same q = true ↔ p.Like q := by
  rw [same_iff, FieldTable.perm_iff_find?]
  exact ⟨fun ⟨hf, hs, hr, hd⟩ => ⟨hf, hs, hr, hd⟩, fun ⟨hf, hs, hr, hd⟩ => ⟨hf, hs, hr, hd⟩⟩

/-! ### What is read off a probe -/

/-- What is read off two probes is the same. -/
structure Indistinct (p q : Probe) : Prop where
  value (key : String) : p.value key = q.value key
  extract (t : FieldType) (key : String) : p.extract t key = q.extract t key
  extract? (t : FieldType) (key : String) : p.extract? t key = q.extract? t key
  address (key : String) : p.address key = q.address key
  address? (key : String) : p.address? key = q.address? key
  header : IcmpHeader.ofReply? p = IcmpHeader.ofReply? q
  classify (target : IpAddr) : classify target p = classify target q
  size : p.size = q.size
  length : p.fields.length = q.fields.length
  /-- The time from the probe to a reply. -/
  sent (id : Nat) (reply : Probe) :
    Exchange.roundTrip? ⟨⟨id, p⟩, reply⟩ = Exchange.roundTrip? ⟨⟨id, q⟩, reply⟩
  /-- The time to the probe as a reply. -/
  reply (sent : SentProbe) : Exchange.roundTrip? ⟨sent, p⟩ = Exchange.roundTrip? ⟨sent, q⟩

theorem size_eq_of_perm (h : p.fields.toList.Perm q.fields.toList) : p.size = q.size := by
  rw [size, size, FieldTable.size_eq, FieldTable.size_eq]
  exact (h.flatMap_right Field.toNetwork).length_eq

/-- **Equal probes cannot be told apart.** -/
theorem Like.indistinct (h : p.Like q) : p.Indistinct q where
  value _ := value_congr (h.fields _)
  extract t key := by
    rw [extract, extract, value_congr (h.fields key)]
  extract? t key := extract?_congr t (value_congr (h.fields key))
  address key := by
    rw [address, address, value_congr (h.fields key)]
  address? key := address?_congr (value_congr (h.fields key))
  header := IcmpHeader.ofReply?_congr fun key _ _ => value_congr (h.fields key)
  classify _ := classify_congr fun key _ => h.fields key
  size := size_eq_of_perm (FieldTable.perm_iff_find?.2 h.fields)
  length := (FieldTable.perm_iff_find?.2 h.fields).length_eq
  sent id reply := by
    simp only [Exchange.roundTrip?, roundTrip?, h.sent]
  reply sent := by
    simp only [Exchange.roundTrip?, roundTrip?, h.received]

/-! ### Edits of equal probes -/

/-- A field may come to stand in different places, but it replaces equal ones. -/
theorem Like.edit (h : p.Like q) (e : Edit) : (p.edit e).Like (q.edit e) := by
  cases e with
  | field f =>
    refine ⟨fun key => ?_, h.sent, h.received, h.delay⟩
    change (p.fields.set f).find? key = (q.fields.set f).find? key
    rw [FieldTable.find?_set, FieldTable.find?_set, h.fields]
  | sent time => exact ⟨h.fields, rfl, h.received, h.delay⟩
  | received time => exact ⟨h.fields, h.sent, rfl, h.delay⟩
  | delay d => exact ⟨h.fields, h.sent, h.received, rfl⟩

theorem Like.edited (h : p.Like q) (es : List Edit) : (p.edited es).Like (q.edited es) := by
  induction es generalizing p q with
  | nil => exact h
  | cons e es ih => exact ih (h.edit e)

theorem Like.refl (p : Probe) : p.Like p := ⟨fun _ => rfl, rfl, rfl, rfl⟩

theorem Like.symm (h : p.Like q) : q.Like p :=
  ⟨fun key => (h.fields key).symm, h.sent.symm, h.received.symm, h.delay.symm⟩

theorem Like.trans (h : p.Like q) (h' : q.Like r) : p.Like r :=
  ⟨fun key => (h.fields key).trans (h'.fields key), h.sent.trans h'.sent,
    h.received.trans h'.received, h.delay.trans h'.delay⟩

/-- A relation is an equality of probes for which the order of fields does not count. -/
structure Congruence (eq : Probe → Probe → Prop) : Prop where
  /-- It compares the fields under each key, the times and the delay. -/
  like (p q : Probe) : eq p q ↔ p.Like q
  /-- The fields of equal probes are the same, in another order. -/
  perm (p q : Probe) : eq p q ↔ p.fields.toList.Perm q.fields.toList ∧ p.sent = q.sent ∧
    p.received = q.received ∧ p.delay = q.delay
  equivalence : Equivalence eq
  /-- Equal probes cannot be told apart. -/
  indistinct (p q : Probe) : eq p q → p.Indistinct q
  /-- They stay equal under the same edits. -/
  edited (p q : Probe) (es : List Edit) : eq p q → eq (p.edited es) (q.edited es)

/-- **Equality of probes is a congruence** for all that is read off them and all edits. -/
theorem same_congruence : Congruence fun p q => p.same q = true where
  like _ _ := same_iff_like
  perm _ _ := same_iff
  equivalence := by
    simp only [same_iff_like]
    exact ⟨Like.refl, Like.symm, Like.trans⟩
  indistinct _ _ h := (same_iff_like.1 h).indistinct
  edited _ _ es h := same_iff_like.2 ((same_iff_like.1 h).edited es)

/-- The order of the fields shows, though probes are equal: a new field goes last in either. -/
example :
    let p := empty.edited [.field (.int .int8 "type" 3), .field (.int .int8 "code" 1)]
    let q := empty.edited [.field (.int .int8 "code" 1), .field (.int .int8 "type" 3)]
    p.same q = true ∧ p.fields.toList ≠ q.fields.toList := by
  decide +kernel

end Probe

end EchoProbe
