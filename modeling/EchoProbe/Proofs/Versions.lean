import Mathlib.Data.List.Nodup
import EchoProbe.Proofs.Diagnosis
import EchoProbe.Proofs.Tally

/-!
# The version of a message

A scripted message may name a version of its own, with eight bits. Its reply has four bits for it.

* `IcmpHeader.Specified` is the table of messages for any number in the place of a version;
* `Run.type_of_settlement` says that the user is told of a probe what the script has for it, in
  every run, also in one that fails;
* `versions_heard` says how a message is taken: by the four lowest bits of its version. For one that
  needs more bits, this is not always the outcome that the table has.
-/

namespace EchoProbe

theorem IpVersion.number_injective : Function.Injective number := by
  intro u v h
  cases u <;> cases v <;> first | rfl | cases h

namespace IcmpHeader

/-! ### The table -/

/-- What the table has for a message, given the number of its version. -/
inductive Specified (number type code : Nat) : Classification → Prop
  | listed {v : IpVersion} {r : Classification} : v.number = number →
      Listed ⟨v, type, code⟩ r → Specified number type code r
  | unlisted {v : IpVersion} : v.number = number → (∀ r, ¬Listed ⟨v, type, code⟩ r) →
      Specified number type code .other
  /-- A message of a foreign version has no other outcome. -/
  | foreign : (∀ v : IpVersion, v.number ≠ number) → Specified number type code .other

variable {number type code : Nat} {r r' : Classification}

theorem specified_iff :
    Specified number type code r ↔
      ((IpVersion.ofNumber? number).map fun v => outcome ⟨v, type, code⟩).getD .other = r := by
  cases hv : IpVersion.ofNumber? number with
  | none =>
    have hforeign (v : IpVersion) : v.number ≠ number := by
      intro h
      rw [IpVersion.ofNumber?_eq_some_iff.2 h.symm] at hv
      cases hv
    constructor
    · rintro (⟨h, -⟩ | ⟨h, -⟩ | -)
      · exact (hforeign _ h).elim
      · exact (hforeign _ h).elim
      · rfl
    · rintro rfl
      exact .foreign hforeign
  | some v =>
    rw [IpVersion.ofNumber?_eq_some_iff] at hv
    have hown {u : IpVersion} (h : u.number = number) : u = v :=
      IpVersion.number_injective (h.trans hv)
    rw [Option.map_some, Option.getD_some, outcome_eq_iff]
    constructor
    · rintro (⟨h, hl⟩ | ⟨h, hno⟩ | hforeign)
      · exact .inl (hown h ▸ hl)
      · exact .inr ⟨rfl, hown h ▸ hno⟩
      · exact (hforeign v hv.symm).elim
    · rintro (hl | ⟨rfl, hno⟩)
      · exact .listed hv.symm hl
      · exact .unlisted hv.symm hno

theorem Specified.unique (h : Specified number type code r) (h' : Specified number type code r') :
    r = r' :=
  (specified_iff.1 h).symm.trans (specified_iff.1 h')

theorem specified_of_le (h : 2 ^ 4 ≤ number) : Specified number type code .other :=
  .foreign fun v hv => by cases v <;> simp [IpVersion.number] at hv <;> omega

/-- The four lowest bits of a version give the outcome of the version itself exactly if there are no
other bits, or if it is the outcome of a foreign version. -/
theorem Specified.mod_iff (h : Specified (number % 2 ^ 4) type code r) :
    Specified number type code r ↔
      number < 2 ^ 4 ∨ Specified (number % 2 ^ 4) type code .other := by
  rcases Nat.lt_or_ge number (2 ^ 4) with hlt | hge
  · rw [Nat.mod_eq_of_lt hlt] at h
    exact iff_of_true h (.inl hlt)
  · have hforeign : Specified number type code .other := specified_of_le hge
    constructor
    · intro h'
      rw [h'.unique hforeign] at h
      exact .inr h
    · rintro (hlt | hother)
      · exact (Nat.not_lt.2 hge hlt).elim
      · rw [h.unique hother]
        exact hforeign

end IcmpHeader

/-! ### Messages -/

/-- A number that was cut to fit its field is read as it was cut. -/
theorem Probe.extract?_truncate {p : Probe} {t : IntType} {key : String} {n : Nat}
    (h : p.value key = .ok (.truncate t n)) :
    p.extract? (.int t) key = some (Fin.ofNat (2 ^ t.bits) n) :=
  extract?_eq_some_iff.2 (value_eq_ok_iff.1 h)

theorem ofReply?_replyProbe (version : Nat) (source : IpAddr) {type code : Nat}
    (ht : type < 2 ^ 8) (hc : code < 2 ^ 8) :
    IcmpHeader.ofReply? (replyProbe version source type code) =
      (IpVersion.ofNumber? (version % 2 ^ 4)).map fun v => ⟨v, type, code⟩ := by
  obtain ⟨hversion, -, htype, hcode⟩ := value_replyProbe version source type code
  rw [IcmpHeader.ofReply?, IcmpHeader.version?, Probe.extract?_truncate hversion,
    Probe.extract?_truncate htype, Probe.extract?_truncate hcode]
  change ((IpVersion.ofNumber? (version % 2 ^ 4)).bind fun v =>
    some (⟨v, type % 2 ^ 8, code % 2 ^ 8⟩ : IcmpHeader)) = _
  rw [Nat.mod_eq_of_lt ht, Nat.mod_eq_of_lt hc]
  cases IpVersion.ofNumber? (version % 2 ^ 4) <;> rfl

/-- A message from elsewhere is taken for one of the version that the four lowest bits spell. -/
theorem classify_message {target : IpAddr} {m : IcmpMessage} {v : UInt8}
    (hv : m.version = some v) (hm : m.sender ≠ target) :
    IcmpHeader.Specified (v.toNat % 2 ^ 4) m.type.toNat m.code.toNat (classify target m.reply) := by
  have hreply : m.reply = replyProbe v.toNat m.sender m.type.toNat m.code.toNat := by
    rw [IcmpMessage.reply, hv]
  rw [hreply, classify, address?_replyProbe, if_neg fun h => hm (Option.some.inj h),
    ofReply?_replyProbe _ _ m.type.toNat_lt m.code.toNat_lt, IcmpHeader.specified_iff]
  cases IpVersion.ofNumber? (v.toNat % 2 ^ 4) <;> rfl

/-! ### Runs -/

theorem Flight.Scripted.type_of_settlement? {s : Scenario} {timeout : Duration} {k : Nat}
    {f : Flight} (h : f.Scripted s timeout k) {x : Settlement}
    (hx : f.appointment.settlement? s.target = some x) :
    x.finding.type = s.verdict timeout x.sent.id := by
  obtain ⟨finding, hfinding, hset⟩ := h.settlement? s.target
  obtain ⟨-, -, finding', hfinding', htype⟩ := h.reading
  rw [hx] at hset
  cases hset
  cases hfinding.symm.trans hfinding'
  rw [htype, h.id]

theorem Run.type_of_settlement {s : Scenario} {room : Room} {f : Flags}
    (hv : (s.config f).validate = .ok ()) {x : Settlement}
    (hx : x ∈ (s.run room (.new (s.config f) (s.config f).echoSkeleton none)).settlements) :
    x.finding.type = s.verdict (s.config f).timeout x.sent.id := by
  obtain ⟨ts, sim, h, hsim⟩ := Simulation.exists_follows s room hv
  rw [s.run_eq_shown hv h hsim] at hx
  rcases (Simulation.Waypoint.of_follows hv h).end_cases hsim with
    ⟨-, -, hshown⟩ | ⟨fs, as, e, hend, -, hshown⟩ | ⟨fs, as, hend, -, hshown⟩
  · rw [hshown] at hx
    cases hx
  · rw [hshown] at hx
    change x ∈ ((s.config f).chronicle 0 as).filterMap Settlement.ofEntry? at hx
    rw [settlements_chronicle] at hx
    obtain ⟨a, ha, hax⟩ := List.mem_filterMap.1 hx
    obtain ⟨k, g, -, rfl, hg⟩ := hend.booked.exists_flight (List.mem_append_left _ ha)
    exact hg.type_of_settlement? hax
  · rw [hshown, settlements_fullRun] at hx
    obtain ⟨a, ha, hax⟩ := List.mem_filterMap.1 hx
    obtain ⟨k, g, -, rfl, hg⟩ := hend.exists_flight ha
    exact hg.type_of_settlement? hax

theorem Scenario.verdict_of_message {s : Scenario} {timeout : Duration} {k : Nat}
    {m : IcmpMessage} (hm : s.response k = .icmp m)
    (ht : Duration.ofMillis m.roundTripMs < timeout) :
    s.verdict timeout k = .answered (classify s.target m.reply) := by
  have ha : s.answer? timeout k = some (.ofMillis m.roundTripMs, m.reply) := by
    rw [answer?, hm]
    exact if_pos ht
  rw [verdict, ha]

/-! ### Versions -/

/-- What the user is told of the probe `k`, to which some host replies in time with a message `m`
of the version `v`. -/
structure Scenario.Heard (s : Scenario) (c : Config) (r : Run) (k : Nat) (m : IcmpMessage)
    (v : UInt8) : Prop where
  /-- The outcome is that of a message whose version is spelled by the four lowest bits, -/
  told (x : Settlement) : x ∈ r.settlements → x.sent.id = k → ∃ outcome,
    x.finding.type = .answered outcome ∧
      IcmpHeader.Specified (v.toNat % 2 ^ 4) m.type.toNat m.code.toNat outcome
  /-- which is that of the message itself if its version has no more bits, and else exactly if it
  is the outcome of messages that mean nothing. -/
  right (x : Settlement) : x ∈ r.settlements → x.sent.id = k →
    ((∃ outcome, x.finding.type = .answered outcome ∧
        IcmpHeader.Specified v.toNat m.type.toNat m.code.toNat outcome) ↔
      v.toNat < 2 ^ 4 ∨
        IcmpHeader.Specified (v.toNat % 2 ^ 4) m.type.toNat m.code.toNat .other)
  /-- Unless the run fails, the user is told once. -/
  once : r.failure = none → k < c.count.toNat →
    (r.settlements.map (·.sent.id)).count k = 1

/-- **A message is taken for one of the version that the four lowest bits of its version spell,** in
every run of every scenario. -/
theorem versions_heard (s : Scenario) (room : Room) (f : Flags) (meas : Measurement) (k : Nat)
    (m : IcmpMessage) (v : UInt8) (hb : Measurement.build (s.config f) none none = .ok meas)
    (hm : s.response k = .icmp m) (hv : m.version = some v) (hsender : m.sender ≠ s.target)
    (htime : Duration.ofMillis m.roundTripMs < (s.config f).timeout) :
    s.Heard (s.config f) (s.run room meas) k m v := by
  obtain ⟨hvalid, rfl⟩ := Measurement.eq_new_of_build hb
  have hread := classify_message hv hsender
  have htold (x : Settlement)
      (hx : x ∈ (s.run room (.new (s.config f) (s.config f).echoSkeleton none)).settlements)
      (hk : x.sent.id = k) : x.finding.type = .answered (classify s.target m.reply) := by
    rw [Run.type_of_settlement hvalid hx, hk, Scenario.verdict_of_message hm htime]
  refine ⟨fun x hx hk => ⟨_, htold x hx hk, hread⟩, fun x hx hk => ?_, fun hr hk => ?_⟩
  · rw [htold x hx hk]
    constructor
    · rintro ⟨outcome, heq, hspec⟩
      cases heq
      exact hread.mod_iff.1 hspec
    · intro h
      exact ⟨_, rfl, hread.mod_iff.2 h⟩
  · have hperm := (s.timetable_of_completed room f _ hb hr).each
    rw [hperm.count_eq]
    exact List.count_eq_one_of_mem List.nodup_range (List.mem_range.2 hk)

namespace Scenario

/-- One probe, to which a message of version 20 comes back. -/
def disguised : Scenario where
  name := "disguised"
  target := .v4 ⟨0x0a000001, by decide⟩
  count := some 1
  intervalMs := none
  timeoutMs := none
  maxTtl := none
  hosts := .empty
  sendFailure := none
  responses := [.icmp ⟨.v4 ⟨0x0a0000fe, by decide⟩, some 20, 3, 1, 5⟩]
  expected := none

theorem heard_of_disguised :
    ∃ meas, Measurement.build (disguised.config .default) none none = .ok meas ∧
      disguised.Heard (disguised.config .default) (disguised.run .ample meas) 0
        ⟨.v4 ⟨0x0a0000fe, by decide⟩, some 20, 3, 1, 5⟩ 20 :=
  ⟨_, rfl, versions_heard disguised .ample .default _ 0 _ 20 rfl rfl rfl (by decide) (by decide)⟩

/-- The message is taken for one of version 4, though the table has nothing for version 20. -/
theorem version_of_disguised :
    ∃ meas, Measurement.build (disguised.config .default) none none = .ok meas ∧
      (disguised.run .ample meas).failure = none ∧
      (disguised.run .ample meas).settlements.map (fun x => (x.sent.id, x.finding.type)) =
        [(0, .answered .hostUnreachable)] ∧
      IcmpHeader.Specified 20 3 1 .other ∧ ¬IcmpHeader.Specified 20 3 1 .hostUnreachable := by
  have hforeign : IcmpHeader.Specified 20 3 1 .other := IcmpHeader.specified_of_le (by decide)
  refine ⟨_, rfl, by decide +kernel, by decide +kernel, hforeign, fun h => ?_⟩
  cases hforeign.unique h

end Scenario

end EchoProbe
