import EchoProbe.Proofs.Halting

/-!
# The timetable of a simulation

What a user sees of a run that does not fail lets the times of all probes be computed.

* `Run.settlements` are the probes that the user saw settled, with the times and what was told of
  them;
* `settlements_fullRun` says that these are the appointments of the run, in order;
* `Scenario.Timetable` is the recurrence for the times of sending and settling, and
  `Scenario.timetable_of_completed` says that every run that does not fail keeps to it, with the
  times of sending of the plan.
-/

namespace EchoProbe

/-- A probe that was settled, as the user sees it. -/
structure Settlement where
  /-- The time at which the user was told. -/
  time : Duration
  /-- The probe. -/
  sent : SentProbe
  /-- What the user was told. -/
  finding : Finding

/-- The slot that a settlement took. -/
def Settlement.slot (x : Settlement) : Slot := ⟨x.time.nanos, x.sent.id⟩

/-- The settlement that an event for the user tells of. -/
def Settlement.ofEntry? : Duration × Event → Option Settlement
  | (time, .outward f) => f.sent?.map (⟨time, ·, f⟩)
  | _ => none

/-- The settlements that the user was told of, in order. -/
def Run.settlements (r : Run) : List Settlement :=
  r.trace.filterMap Settlement.ofEntry?

/-- What the user sees of an appointment. -/
def Appointment.settlement? (target : IpAddr) (a : Appointment) : Option Settlement :=
  (a.event.finding? target).bind fun f => Settlement.ofEntry? (a.due, .outward f)

/-! ### From appointments to settlements -/

theorem Flight.Scripted.settlement? {s : Scenario} {timeout : Duration} {k : Nat} {f : Flight}
    (h : f.Scripted s timeout k) (target : IpAddr) :
    ∃ finding, f.appointment.event.finding? target = some finding ∧
      f.appointment.settlement? target = some ⟨f.appointment.due, f.sent, finding⟩ := by
  rcases h.event_cases with ⟨roundTrip, reply, x, t, -, he, hx, -, -⟩ | ⟨-, he⟩
  · refine ⟨.answered (classify target x.reply) x, by rw [he]; rfl, ?_⟩
    rw [Appointment.settlement?, he, ← hx]
    rfl
  · refine ⟨.timeout f.sent, by rw [he]; rfl, ?_⟩
    rw [Appointment.settlement?, he]
    rfl

theorem settlements_entries (c : Config) (r : Nat) (a : Appointment) :
    (c.entries r a).filterMap Settlement.ofEntry? =
      (a.settlement? c.target).toList := by
  rw [Config.entries, Appointment.settlement?]
  cases a.event.finding? c.target with
  | none => split <;> rfl
  | some f => cases f <;> split <;> rfl

theorem settlements_chronicle (c : Config) (r : Nat) (as : List Appointment) :
    (c.chronicle r as).filterMap Settlement.ofEntry? =
      as.filterMap (Appointment.settlement? c.target) := by
  induction as generalizing r with
  | nil => rfl
  | cons a as ih =>
    rw [Config.chronicle, List.filterMap_append, settlements_entries, ih]
    cases h : a.settlement? c.target <;> simp [h]

/-- **The settlements that the user sees are the appointments.** -/
theorem settlements_fullRun (c : Config) (as : List Appointment) :
    (c.fullRun as).settlements = as.filterMap (Appointment.settlement? c.target) := by
  show ((.zero, .start) :: (c.chronicle 0 as ++ c.closing as)).filterMap Settlement.ofEntry? = _
  rw [List.filterMap_cons_none rfl, List.filterMap_append, settlements_chronicle]
  exact List.append_nil _

theorem map_filterMap_of_forall {α β γ : Type} {g : α → Option β} {u : β → γ} {v : α → γ}
    {as : List α} (h : ∀ a ∈ as, ∃ x, g a = some x ∧ u x = v a) :
    (as.filterMap g).map u = as.map v := by
  induction as with
  | nil => rfl
  | cons a as ih =>
    obtain ⟨⟨x, hx, hu⟩, has⟩ := List.forall_mem_cons.1 h
    rw [List.filterMap_cons_some hx, List.map_cons, List.map_cons, hu, ih has]

namespace Completed

variable {s : Scenario} {c : Config} {fs : List Flight} {as : List Appointment}

theorem exists_flight (h : Completed s c fs as) {a : Appointment} (ha : a ∈ as) :
    ∃ (k : Nat) (f : Flight), fs[k]? = some f ∧ f.appointment = a ∧ f.Scripted s c.timeout k := by
  obtain ⟨f, hf, rfl⟩ := List.mem_map.1 (h.perm.mem_iff.1 ha)
  obtain ⟨k, hk⟩ := List.mem_iff_getElem?.1 hf
  exact ⟨k, f, hk, rfl, h.scripted k f hk⟩

theorem perm_range (h : Completed s c fs as) :
    (as.map Appointment.number).Perm (List.range c.count.toNat) := by
  rw [← h.length]
  exact (h.perm.map _).trans (.of_eq (map_number_flights h.scripted))

/-- Appointments and settlements correspond to each other. -/
theorem map_settlements (h : Completed s c fs as) {α : Type} {u : Settlement → α}
    {v : Appointment → α}
    (huv : ∀ (k : Nat) (f : Flight), f.Scripted s c.timeout k → ∀ finding,
      u ⟨f.appointment.due, f.sent, finding⟩ = v f.appointment) :
    (c.fullRun as).settlements.map u = as.map v := by
  rw [settlements_fullRun]
  refine map_filterMap_of_forall ?_
  intro a ha
  obtain ⟨k, f, -, rfl, hf⟩ := h.exists_flight ha
  obtain ⟨finding, -, hset⟩ := hf.settlement? c.target
  exact ⟨_, hset, huv k f hf finding⟩

/-- The settlements took the slots of the plan. -/
theorem map_slot_settlements (h : Completed s c fs as) :
    (c.fullRun as).settlements.map Settlement.slot = s.plan c c.count.toNat := by
  have hslots := h.map_settlements (u := Settlement.slot) (v := Appointment.slot)
    fun k f hf _ => congrArg (Slot.mk f.appointment.due.nanos) (hf.id.trans hf.number.symm)
  rw [hslots, ← h.length]
  exact map_slot_eq_plan h.scripted h.punctual h.perm h.ordered

theorem exists_flight_of_settlement (h : Completed s c fs as) {x : Settlement}
    (hx : x ∈ (c.fullRun as).settlements) :
    ∃ (k : Nat) (f : Flight), fs[k]? = some f ∧ f.Scripted s c.timeout k ∧
      f.appointment ∈ as ∧ x.time = f.appointment.due ∧ x.sent = f.sent ∧
      f.appointment.event.finding? c.target = some x.finding := by
  rw [settlements_fullRun] at hx
  obtain ⟨a, ha, hax⟩ := List.mem_filterMap.1 hx
  obtain ⟨k, f, hk, rfl, hf⟩ := h.exists_flight ha
  obtain ⟨finding, hfind, hset⟩ := hf.settlement? c.target
  rw [hset] at hax
  cases hax
  exact ⟨k, f, hk, hf, ha, rfl, rfl, hfind⟩

theorem le_lastDue (h : Completed s c fs as) {a : Appointment} (ha : a ∈ as) :
    a.due.nanos ≤ (lastDue as).nanos := by
  have hord := h.ordered
  rcases List.eq_nil_or_concat as with rfl | ⟨bs, b, rfl⟩
  · cases ha
  · rw [List.concat_eq_append] at *
    rw [lastDue_concat]
    rcases List.mem_append.1 ha with ha | ha
    · exact ((List.pairwise_append.1 hord).2.2 a ha b List.mem_cons_self).le
    · exact Nat.le_of_eq (by rw [List.mem_singleton.1 ha])

end Completed

/-! ### Times never go back -/

theorem exists_due_of_mem_chronicle {c : Config} {r : Nat} {as : List Appointment}
    {x : Duration × Event} (hx : x ∈ c.chronicle r as) : ∃ a ∈ as, x.1 = a.due := by
  induction as generalizing r with
  | nil => cases hx
  | cons a as ih =>
    rcases List.mem_append.1 hx with hx | hx
    · obtain ⟨f, -, rfl⟩ := List.mem_map.1 hx
      exact ⟨a, List.mem_cons_self, rfl⟩
    · obtain ⟨b, hb, h⟩ := ih hx
      exact ⟨b, List.mem_cons_of_mem _ hb, h⟩

theorem pairwise_chronicle {c : Config} {r : Nat} {as : List Appointment}
    (h : as.Pairwise Appointment.Before) :
    (c.chronicle r as).Pairwise fun x y => x.1.nanos ≤ y.1.nanos := by
  induction as generalizing r with
  | nil => exact .nil
  | cons a as ih =>
    obtain ⟨ha, has⟩ := List.pairwise_cons.1 h
    have htime : ∀ x ∈ c.entries (r + 1) a, x.1 = a.due := by
      intro x hx
      obtain ⟨f, -, rfl⟩ := List.mem_map.1 hx
      rfl
    refine List.pairwise_append.2 ⟨List.pairwise_of_forall_mem_list ?_, ih has, ?_⟩
    · intro x hx y hy
      exact Nat.le_of_eq (by rw [htime x hx, htime y hy])
    · intro x hx y hy
      obtain ⟨b, hb, hyb⟩ := exists_due_of_mem_chronicle hy
      rw [htime x hx, hyb]
      exact (ha b hb).le

/-- The user is told everything in order of time. -/
theorem Completed.pairwise_trace {s : Scenario} {c : Config} {fs : List Flight}
    {as : List Appointment} (h : Completed s c fs as) :
    (c.fullRun as).trace.Pairwise fun x y => x.1.nanos ≤ y.1.nanos := by
  refine List.pairwise_cons.2 ⟨fun y _ => Nat.zero_le _, ?_⟩
  refine List.pairwise_append.2 ⟨pairwise_chronicle h.ordered, ?_, ?_⟩
  · exact List.pairwise_cons.2 ⟨fun y hy => Nat.le_of_eq (by rw [List.mem_singleton.1 hy]),
      List.pairwise_singleton _ _⟩
  · -- the end comes at the time of the last settlement
    intro x hx y hy
    obtain ⟨a, ha, hxa⟩ := exists_due_of_mem_chronicle hx
    have hy : y.1 = lastDue as := by
      rcases List.mem_cons.1 hy with rfl | hy
      · rfl
      · rw [List.mem_singleton.1 hy]
    rw [hxa, hy]
    exact h.le_lastDue ha

/-! ### The timetable -/

/-- The run keeps to the times that the script and the configuration set. -/
structure Scenario.Timetable (s : Scenario) (c : Config) (r : Run) : Prop where
  /-- Each probe is settled once. -/
  each : (r.settlements.map (·.sent.id)).Perm (List.range c.count.toNat)
  /-- The first probes are sent at multiples of the interval. -/
  first : ∀ k < c.window, s.sendingTime c k = min (k + 1) (2 ^ 32 - 1) * c.interval.nanos
  /-- Each later one is sent an interval after the settlement that made room for it. -/
  refill : ∀ k, c.window ≤ k → k < c.count.toNat → ∃ x,
    r.settlements[k - c.window]? = some x ∧ s.sendingTime c k = c.interval.nanos + x.time.nanos
  /-- Each probe is stamped with the time at which it is sent. -/
  stamp : ∀ x ∈ r.settlements, ∃ t,
    x.sent.probe.sent = some t ∧ t.nanos = s.sendingTime c x.sent.id
  /-- Each probe is settled when its answer comes, or else when it times out. -/
  settled : ∀ x ∈ r.settlements,
    x.time.nanos = s.sendingTime c x.sent.id + (s.patience c.timeout x.sent.id).nanos
  /-- Settlements are told in the order of their times, and those of one time in the order of
  sending. -/
  ordered : r.settlements.Pairwise fun x y => x.slot.Before y.slot
  /-- An answer shows the round trip time of the script. -/
  roundTrip : ∀ x ∈ r.settlements, ∀ outcome e, x.finding = .answered outcome e →
    ∃ d reply, s.answer? c.timeout x.sent.id = some (d, reply) ∧ e.roundTrip? = some d
  /-- The clock never goes back. -/
  monotone : r.trace.Pairwise fun x y => x.1 ≤ y.1
  /-- The run takes as long as its latest settlement. -/
  elapsed : (∀ x ∈ r.settlements, x.time ≤ r.elapsed) ∧ ∃ x ∈ r.settlements, x.time = r.elapsed

namespace Completed

variable {s : Scenario} {c : Config} {fs : List Flight} {as : List Appointment}

/-- A settlement makes room for each probe after the first ones. -/
theorem exists_settlement (h : Completed s c fs as) {k : Nat} (hk : c.window ≤ k)
    (hn : k < c.count.toNat) :
    ∃ x, (c.fullRun as).settlements[k - c.window]? = some x ∧
      s.sendingTime c k = c.interval.nanos + x.time.nanos := by
  have hw : 0 < c.window := Config.window_pos (Nat.lt_of_le_of_lt (Nat.zero_le k) hn)
  obtain ⟨y, hy, hat⟩ := Scenario.exists_slot (s := s) hw hk (Nat.le_of_lt hn)
  rw [← h.map_slot_settlements, List.getElem?_map] at hy
  obtain ⟨x, hx, rfl⟩ := Option.map_eq_some_iff.1 hy
  exact ⟨x, hx, hat⟩

theorem roundTrip?_of_answered (h : Completed s c fs as) {x : Settlement}
    (hx : x ∈ (c.fullRun as).settlements) {outcome : Classification} {e : Exchange}
    (he : x.finding = .answered outcome e) :
    ∃ d reply, s.answer? c.timeout x.sent.id = some (d, reply) ∧ e.roundTrip? = some d := by
  obtain ⟨k, f, -, hf, -, -, hsent, hfinding⟩ := h.exists_flight_of_settlement hx
  rw [hsent, hf.id]
  rw [he] at hfinding
  rcases hf.event_cases with ⟨d, reply, y, t, hd, hev, -, -, hround⟩ | ⟨-, hev⟩
  · rw [hev] at hfinding
    cases hfinding
    exact ⟨d, reply, hd, hround⟩
  · rw [hev] at hfinding
    cases hfinding

theorem exists_last (h : Completed s c fs as) (hn : 0 < c.count.toNat) :
    ∃ x ∈ (c.fullRun as).settlements, x.time = lastDue as := by
  have htimes : (c.fullRun as).settlements.map Settlement.time = as.map Appointment.due :=
    h.map_settlements fun _ _ _ _ => rfl
  have hlen := h.length_appointments
  rcases List.eq_nil_or_concat as with rfl | ⟨bs, b, rfl⟩
  · rw [← hlen] at hn
    cases hn
  · rw [List.concat_eq_append] at *
    have hmem : b.due ∈ (c.fullRun (bs ++ [b])).settlements.map Settlement.time := by
      rw [htimes]
      exact List.mem_map_of_mem (List.mem_append_right _ List.mem_cons_self)
    obtain ⟨x, hx, hxb⟩ := List.mem_map.1 hmem
    exact ⟨x, hx, hxb.trans (lastDue_concat bs b).symm⟩

theorem timetable (h : Completed s c fs as) (hn : 0 < c.count.toNat) :
    s.Timetable c (c.fullRun as) where
  each := by
    rw [h.map_settlements fun k f hf _ => hf.id.trans hf.number.symm]
    exact h.perm_range
  first k hk := s.sendingTime_of_lt c hk
  refill k hk hkn := h.exists_settlement hk hkn
  stamp x hx := by
    obtain ⟨k, f, hk, hf, -, -, hsent, -⟩ := h.exists_flight_of_settlement hx
    obtain ⟨t, ht, hstamp⟩ := hf.stamp
    rw [hsent, hf.id, ← h.punctual k f hk]
    exact ⟨t, hstamp, (Instant.lt_of_after? ht).1⟩
  settled x hx := by
    obtain ⟨k, f, hk, hf, -, htime, hsent, -⟩ := h.exists_flight_of_settlement hx
    rw [htime, hsent, hf.id, ← h.punctual k f hk]
    exact hf.due
  ordered := by
    have hpair := s.pairwise_plan c c.count.toNat
    rw [← h.map_slot_settlements, List.pairwise_map] at hpair
    exact hpair
  roundTrip x hx outcome e he := h.roundTrip?_of_answered hx he
  monotone := h.pairwise_trace
  elapsed := by
    refine ⟨?_, h.exists_last hn⟩
    intro x hx
    obtain ⟨k, f, -, -, hmem, htime, -, -⟩ := h.exists_flight_of_settlement hx
    rw [htime]
    exact h.le_lastDue hmem

end Completed

/-- **A run that does not fail keeps to the timetable.** -/
theorem Scenario.timetable_of_completed (s : Scenario) (room : Room) (flags : Flags)
    (m : Measurement)
    (hm : Measurement.build (s.config flags) none none = .ok m)
    (hr : (s.run room m).failure = none) :
    s.Timetable (s.config flags) (s.run room m) := by
  obtain ⟨hv, rfl⟩ := Measurement.eq_new_of_build hm
  cases hroom : room (s.config flags).count.toNat with
  | true =>
    rcases s.run_cases hv hroom with ⟨fs, as, w, e, -, h⟩ | ⟨fs, as, hend, h⟩
    · rw [h] at hr
      cases hr
    · rw [h]
      exact hend.timetable (Config.count_pos_of_validate hv)
  | false =>
    rw [s.failure_run_of_crowded hv hroom] at hr
    cases hr

namespace Scenario

/-- Five probes, three at a time: the third is answered before the first, and the fourth before the
second times out. -/
def overtaking : Scenario where
  name := "overtaking"
  target := .v6 1
  count := some 5
  intervalMs := some 1000
  timeoutMs := some 3000
  maxTtl := none
  hosts := .empty
  sendFailure := none
  responses := [.echo 2500, .silence, .echo 100, .icmp ⟨.v6 2, none, 1, 4, 500⟩]
  expected := none

theorem timetable_of_overtaking :
    ∃ m, Measurement.build (overtaking.config .default) none none = .ok m ∧
      (overtaking.run .ample m).failure = none ∧
      (overtaking.run .ample m).settlements.map (fun x => (x.sent.id, x.time.toMillis)) =
        [(2, 3100), (0, 3500), (3, 4600), (1, 5000), (4, 7000)] ∧
      overtaking.Timetable (overtaking.config .default) (overtaking.run .ample m) :=
  ⟨_, rfl, by decide +kernel, by decide +kernel,
    overtaking.timetable_of_completed .ample .default _ rfl (by decide +kernel)⟩

end Scenario

end EchoProbe
