import EchoProbe.Proofs.Course

/-!
# A simulation comes to its end

Nothing bounds the number of events of a simulation from outside: it sends probes, which put new
events on the agenda. Yet each probe is settled once, so that the end comes by itself.

* `Simulation.Waypoint` says where a simulation can stand between two events, and
  `Simulation.Waypoint.step` that the next event leads from one waypoint to another;
* `Scenario.run_cases` says how a run ends, and what it has shown then;
* `Scenario.Halts` is what it means that a simulation never stalls and comes to its end, and
  `Scenario.simulation_halts` says that it does.
-/

namespace EchoProbe

/-! ### From the start to the end -/

namespace Simulation

variable {s : Scenario} {room : Room} {c : Config} {sim : Simulation}

theorem chronicle_append (c : Config) (r : Nat) (as bs : List Appointment) :
    c.chronicle r (as ++ bs) = c.chronicle r as ++ c.chronicle (r + as.length) bs := by
  induction as generalizing r with
  | nil => rfl
  | cons a as ih =>
    rw [List.cons_append, Config.chronicle, Config.chronicle, ih, List.append_assoc,
      List.length_cons, Nat.add_right_comm]
    rfl

theorem chronicle_concat (c : Config) (as : List Appointment) (a : Appointment) :
    c.chronicle 0 (as ++ [a]) = c.chronicle 0 as ++ c.entries (as.length + 1) a := by
  rw [chronicle_append, Config.chronicle, Config.chronicle, Nat.zero_add, List.append_nil]

/-- The simulation of `m` in a scenario stands at `sim` after the turns `ts`. -/
def Follows (s : Scenario) (room : Room) (m : Measurement) (ts : List (Turn World))
    (sim : Simulation) : Prop :=
  Journey (s.carrier m.config.timeout room) (.ofMeasurement m) ts sim

/-- Where a simulation can stand after the turns `ts`, and what the user has been shown by then. -/
inductive Waypoint (s : Scenario) (room : Room) (c : Config) (ts : List (Turn World))
    (sim : Simulation) : Prop
  /-- Nothing has happened yet. -/
  | fresh : ts = [] → sim = .ofMeasurement (.new c c.echoSkeleton none) → Waypoint s room c ts sim
  /-- There is no room for so many probes. -/
  | crowded : room c.count.toNat = false → sim.measurement.stage = .errored →
      ts.length = 1 → shown ts sim = ⟨[], .zero, some .allocationFailure⟩ → Waypoint s room c ts sim
  /-- A probe has been refused. -/
  | refused {fs : List Flight} {as : List Appointment} {e : Error} :
      Refused s c fs as sim.world e → sim.measurement.stage = .errored →
      ts.length = as.length + 1 → shown ts sim = c.cutRun as e → Waypoint s room c ts sim
  /-- Some probes are in flight. -/
  | underway {fs : List Flight} {done : List Appointment} {l : Ledger} :
      Underway s c fs done l sim → ts.length = done.length + 1 →
      shown ts sim = ⟨(.zero, .start) :: c.chronicle 0 done, lastDue done, none⟩ →
      Waypoint s room c ts sim
  /-- All probes are settled. -/
  | closing {fs : List Flight} {as : List Appointment} : Completed s c fs as → Closing as sim →
      ts.length = as.length + 1 →
      shown ts sim = ⟨(.zero, .start) :: (c.chronicle 0 as ++
        [(lastDue as, .outward (.allProbesSent (c.tally as)))]), lastDue as, none⟩ →
      Waypoint s room c ts sim
  /-- The measurement has been stopped. -/
  | completed {fs : List Flight} {as : List Appointment} : Completed s c fs as →
      sim.measurement.stage = .terminated → ts.length = as.length + 2 →
      shown ts sim = c.fullRun as → Waypoint s room c ts sim

namespace Waypoint

variable {ts : List (Turn World)}

theorem length_le (h : Waypoint s room c ts sim) : ts.length ≤ c.count.toNat + 2 := by
  cases h with
  | fresh hts => simp [hts]
  | crowded _ _ hlen => omega
  | refused hend _ hlen =>
    have := hend.length
    have := hend.lt_count
    omega
  | underway hu hlen =>
    have := hu.lt_count
    have := hu.shows.settled
    omega
  | closing hend _ hlen =>
    have := hend.length_appointments
    omega
  | completed hend _ hlen =>
    have := hend.length_appointments
    omega

/-- **From each waypoint before the end, the next event leads to another one.** -/
theorem step (hv : c.validate = .ok ()) (h : Waypoint s room c ts sim)
    (hsim : sim.isFinished = false) :
    ∃ t sim', sim.step? (s.carrier c.timeout room) = some (t, sim') ∧
      Waypoint s room c (ts ++ [t]) sim' := by
  have hfails : ∀ {t sim' e}, sim.step? (s.carrier c.timeout room) = some (t, sim') →
      t.failure = some e → sim'.measurement.stage = .errored := fun hstep he =>
    (failure_of_step? hsim hstep).1.1 (by rw [he]; rfl)
  cases h with
  | fresh hts hfresh =>
    subst hts hfresh
    have hshown : shown [] (.ofMeasurement (.new c c.echoSkeleton none)) = ⟨[], .zero, none⟩ := rfl
    cases hroom : room c.count.toNat with
    | true =>
      obtain ⟨sim', ⟨gs, e, hend, t, hstep, htold, he⟩ | ⟨gs, l, hu, t, hstep, htold, he⟩⟩ :=
        start_cases s hv hroom
      · refine ⟨t, sim', hstep, .refused hend (hfails hstep he) rfl ?_⟩
        rw [shown_concat hshown, htold, he, hend.booked.clock]
        rfl
      · refine ⟨t, sim', hstep, .underway hu rfl ?_⟩
        rw [shown_concat hshown, htold, he, hu.booked.clock]
        rfl
    | false =>
      obtain ⟨sim', hclock, t, hstep, htold, he⟩ := step_of_crowded s hv hroom
      refine ⟨t, sim', hstep, .crowded hroom (hfails hstep he) rfl ?_⟩
      rw [shown_concat hshown, htold, he, hclock]
      rfl
  | crowded _ hst => cases hsim.symm.trans (isFinished_of_stage hst)
  | refused _ hst => cases hsim.symm.trans (isFinished_of_stage hst)
  | completed _ hst => cases hsim.symm.trans (isFinished_of_stage hst)
  | underway hu hlen hshown =>
    obtain ⟨a, sim', ⟨e, hend, t, hstep, htold, he⟩ | ⟨gs, l', hu', t, hstep, htold, he⟩ |
      ⟨hend, hclosing, t, hstep, htold, he⟩⟩ := hu.step
    · refine ⟨t, sim', hstep, .refused hend (hfails hstep he) (by simp [hlen]) ?_⟩
      rw [shown_concat hshown, htold, he, hend.booked.clock, Config.cutRun, chronicle_concat]
      rfl
    · refine ⟨t, sim', hstep, .underway hu' (by simp [hlen]) ?_⟩
      rw [shown_concat hshown, htold, he, hu'.booked.clock, chronicle_concat]
      rfl
    · refine ⟨t, sim', hstep, .closing hend hclosing (by simp [hlen]) ?_⟩
      rw [shown_concat hshown, htold, he, hclosing.clock, chronicle_concat]
      simp
  | closing hend hclosing hlen hshown =>
    obtain ⟨t, sim', hstep, htold, he, hst, hclock⟩ := hclosing.step
    refine ⟨t, sim', hstep _, .completed hend hst (by simp [hlen]) ?_⟩
    rw [shown_concat hshown, htold, he, hclock, Config.fullRun, Config.closing]
    simp

/-- The simulation stops when there is no room, when a probe is refused, or when all are settled. -/
theorem end_cases (h : Waypoint s room c ts sim) (hsim : sim.isFinished = true) :
    (room c.count.toNat = false ∧ sim.measurement.stage = .errored ∧
      shown ts sim = ⟨[], .zero, some .allocationFailure⟩) ∨
    (∃ fs as e, Refused s c fs as sim.world e ∧ sim.measurement.stage = .errored ∧
      shown ts sim = c.cutRun as e) ∨
    ∃ fs as, Completed s c fs as ∧ sim.measurement.stage = .terminated ∧
      shown ts sim = c.fullRun as := by
  cases h with
  | fresh _ hfresh =>
    rw [hfresh] at hsim
    cases hsim
  | crowded hroom hst _ hshown => exact .inl ⟨hroom, hst, hshown⟩
  | refused hend hst _ hshown => exact .inr (.inl ⟨_, _, _, hend, hst, hshown⟩)
  | underway hu =>
    cases hsim.symm.trans (isFinished_of_stage (congrArg Phase.stage hu.phase))
  | closing _ hclosing =>
    obtain ⟨l, hl⟩ := hclosing.phase
    cases hsim.symm.trans (isFinished_of_stage (congrArg Phase.stage hl))
  | completed hend hst _ hshown => exact .inr (.inr ⟨_, _, hend, hst, hshown⟩)

theorem failure_cases (h : Waypoint s room c ts sim) (hsim : sim.isFinished = true) :
    ((shown ts sim).failure = none ∧ sim.measurement.stage = .terminated) ∨
    ∃ e, (shown ts sim).failure = some e ∧ (∀ st, e ≠ .stalled st) ∧
      sim.measurement.stage = .errored := by
  rcases h.end_cases hsim with
    ⟨-, hst, hshown⟩ | ⟨fs, as, e, hend, hst, hshown⟩ | ⟨fs, as, -, hst, hshown⟩
  · rw [hshown]
    exact .inr ⟨.allocationFailure, rfl, fun _ => Error.noConfusion, hst⟩
  · rw [hshown]
    refine .inr ⟨e, rfl, ?_, hst⟩
    rcases hend.refusal with ⟨rfl, -⟩ | ⟨-, reason, rfl⟩
    · exact fun _ => Error.noConfusion
    · exact fun _ => Error.noConfusion
  · rw [hshown]
    exact .inl ⟨rfl, hst⟩

/-- When no event is pending, what lies ahead are the ends of the probes in flight. -/
theorem armed (h : Waypoint s room c ts sim) (hpending : sim.pending = [])
    (hsim : sim.isFinished = false) :
    ∃ l, sim.measurement.phase = .running l ∧ l.inFlight ≠ [] ∧
      (l.inFlight.map SentProbe.id).Nodup ∧
      (sim.world.agenda.toList.map (·.event.sent?)).Perm (l.inFlight.map some) := by
  cases h with
  | fresh _ hfresh => rw [hfresh] at hpending; cases hpending
  | crowded _ hst => cases hsim.symm.trans (isFinished_of_stage hst)
  | refused _ hst => cases hsim.symm.trans (isFinished_of_stage hst)
  | completed _ hst => cases hsim.symm.trans (isFinished_of_stage hst)
  | closing _ hclosing => rw [hclosing.pending] at hpending; cases hpending
  | @underway fs done l hu =>
    refine ⟨l, hu.phase, ?_, ?_, hu.shows.inFlight.symm⟩
    · -- the agenda is not empty
      obtain ⟨a, agenda, hahead, -⟩ := hu.exists_next
      rintro hnil
      have hlen := hu.shows.inFlight.length_eq
      rw [hnil, hahead] at hlen
      cases hlen
    · exact hu.shows.perm_number.nodup_iff.2 hu.booked.nodup_ahead

theorem of_follows (hv : c.validate = .ok ())
    (h : sim.Follows s room (.new c c.echoSkeleton none) ts) : Waypoint s room c ts sim := by
  refine Journey.invariant h (.fresh rfl rfl) ?_
  intro ts sim t sim' hway hsim hstep
  obtain ⟨t', sim'', hstep', hway'⟩ := hway.step hv hsim
  cases hstep.symm.trans hstep'
  exact hway'

end Waypoint

theorem exists_follows (s : Scenario) (room : Room) {c : Config} (hv : c.validate = .ok ()) :
    ∃ (ts : List (Turn World)) (sim : Simulation),
      sim.Follows s room (.new c c.echoSkeleton none) ts ∧ sim.isFinished = true := by
  refine Journey.exists_finished (n := c.count.toNat + 2) ?_ ?_
  · intro ts sim h hsim
    obtain ⟨t, sim', hstep, -⟩ := (Waypoint.of_follows hv h).step hv hsim
    exact ⟨_, hstep⟩
  · intro ts sim h
    exact (Waypoint.of_follows hv h).length_le

end Simulation

open Simulation in
theorem Scenario.run_eq_shown (s : Scenario) {room : Room} {c : Config}
    (hv : c.validate = .ok ()) {ts : List (Turn World)} {sim : Simulation}
    (h : sim.Follows s room (.new c c.echoSkeleton none) ts) (hsim : sim.isFinished = true) :
    s.run room (.new c c.echoSkeleton none) = shown ts sim :=
  Journey.run h rfl hsim (Waypoint.of_follows hv h).length_le

/-- **A run is refused a probe, or it settles all of them**, and shows the settlements in order. -/
theorem Scenario.run_cases (s : Scenario) {room : Room} {c : Config} (hv : c.validate = .ok ())
    (hroom : room c.count.toNat = true) :
    (∃ fs as w e, Refused s c fs as w e ∧ s.run room (.new c c.echoSkeleton none) = c.cutRun as e) ∨
    ∃ fs as, Completed s c fs as ∧ s.run room (.new c c.echoSkeleton none) = c.fullRun as := by
  obtain ⟨ts, sim, h, hsim⟩ := Simulation.exists_follows s room hv
  rw [s.run_eq_shown hv h hsim]
  rcases (Simulation.Waypoint.of_follows hv h).end_cases hsim with
    ⟨hfull, -, -⟩ | ⟨fs, as, e, hend, -, hshown⟩ | ⟨fs, as, hend, -, hshown⟩
  · cases hroom.symm.trans hfull
  · exact .inl ⟨fs, as, sim.world, e, hend, hshown⟩
  · exact .inr ⟨fs, as, hend, hshown⟩

theorem Scenario.failure_run_of_crowded (s : Scenario) {room : Room} {c : Config}
    (hv : c.validate = .ok ()) (hroom : room c.count.toNat = false) :
    (s.run room (.new c c.echoSkeleton none)).failure = some .allocationFailure := by
  obtain ⟨sim, -, t, hstep, -, he⟩ := Simulation.step_of_crowded s hv hroom
  have hst : sim.measurement.stage = .errored :=
    (Simulation.failure_of_step? rfl hstep).1.1 (by rw [he]; rfl)
  rw [s.run_eq_shown hv (.cons rfl hstep (.nil sim)) (Simulation.isFinished_of_stage hst)]
  exact he

/-! ### The end -/

/-- The simulation of a measurement in a scenario never stalls, and comes to its end. -/
structure Scenario.Halts (s : Scenario) (room : Room) (m : Measurement) : Prop where
  /-- No more events are handled than there are probes, but for the start and the end. -/
  bounded (ts : List (Turn World)) (sim : Simulation) :
    sim.Follows s room m ts → ts.length ≤ m.config.count.toNat + 2
  /-- Until the end, there is always a next event. -/
  proceeds (ts : List (Turn World)) (sim : Simulation) : sim.Follows s room m ts →
    sim.isFinished = false → ∃ e sim', sim.next? = some (e, sim')
  /-- When no event is pending, there is an appointment for each probe in flight and for no other,
  and some probe is in flight. -/
  armed (ts : List (Turn World)) (sim : Simulation) : sim.Follows s room m ts → sim.pending = [] →
    sim.isFinished = false → ∃ l, sim.measurement.phase = .running l ∧ l.inFlight ≠ [] ∧
      (l.inFlight.map SentProbe.id).Nodup ∧
      (sim.world.agenda.toList.map (·.event.sent?)).Perm (l.inFlight.map some)
  /-- The end comes, and more events would change nothing. -/
  ends : ∃ (ts : List (Turn World)) (sim : Simulation), sim.Follows s room m ts ∧
    sim.isFinished = true ∧ ∀ n, m.config.count.toNat + 2 ≤ n →
      Simulation.run (s.carrier m.config.timeout room) n (.ofMeasurement m) =
        Simulation.shown ts sim
  /-- The run shows no failure if the measurement has been stopped, and the loop has not been told
  of one; it shows one if the measurement has failed, and the loop has been told so. -/
  verdict (ts : List (Turn World)) (sim : Simulation) : sim.Follows s room m ts →
    sim.isFinished = true → ((s.run room m).failure = none ∧ sim.measurement.stage = .terminated ∧
      ¬∃ t ∈ ts, ∃ a ∈ t.actions, a.isFailure = true) ∨
    ∃ e, (s.run room m).failure = some e ∧ (∀ st, e ≠ .stalled st) ∧
      sim.measurement.stage = .errored ∧ ∃ t ∈ ts, ∃ a ∈ t.actions, a.isFailure = true

/-- **A simulation never stalls, and comes to its end**, whatever its script says: also when a probe
is refused, when there is no room for the probes, or when the clock cannot hold a time. -/
theorem Scenario.simulation_halts (s : Scenario) (room : Room) (flags : Flags) (m : Measurement)
    (hm : Measurement.build (s.config flags) none none = .ok m) : s.Halts room m := by
  obtain ⟨hv, rfl⟩ := Measurement.eq_new_of_build hm
  refine ⟨?_, ?_, ?_, ?_, ?_⟩
  · intro ts sim h
    exact (Simulation.Waypoint.of_follows hv h).length_le
  · intro ts sim h hsim
    obtain ⟨t, sim', hstep, -⟩ := (Simulation.Waypoint.of_follows hv h).step hv hsim
    obtain ⟨⟨e, sim₁⟩, hnext, -⟩ := Option.map_eq_some_iff.1 hstep
    exact ⟨e, sim₁, hnext⟩
  · intro ts sim h hpending hsim
    exact (Simulation.Waypoint.of_follows hv h).armed hpending hsim
  · obtain ⟨ts, sim, h, hsim⟩ := Simulation.exists_follows s room hv
    refine ⟨ts, sim, h, hsim, ?_⟩
    intro n hn
    exact Simulation.Journey.run h rfl hsim
      (Nat.le_trans (Simulation.Waypoint.of_follows hv h).length_le hn)
  · intro ts sim h hsim
    have hfail := (Simulation.Journey.failure_iff h rfl).2
    rw [s.run_eq_shown hv h hsim]
    rcases (Simulation.Waypoint.of_follows hv h).failure_cases hsim with
      ⟨hnone, hst⟩ | ⟨e, he, hne, hst⟩
    · refine .inl ⟨hnone, hst, ?_⟩
      rw [hfail, hst]
      exact Stage.noConfusion
    · exact .inr ⟨e, he, hne, hst, hfail.2 hst⟩

namespace Scenario

/-- Four probes, two at a time; the network refuses the last one. -/
def faltering : Scenario where
  name := "faltering"
  target := .v4 ⟨1, by decide⟩
  count := some 4
  intervalMs := some 500
  timeoutMs := some 1000
  maxTtl := none
  hosts := .empty
  sendFailure := some 3
  responses := [.echo 700, .silence, .icmp ⟨.v4 ⟨2, by decide⟩, none, 11, 1, 200⟩]
  expected := none

theorem halts_of_faltering :
    ∃ m, Measurement.build (faltering.config .default) none none = .ok m ∧
      (faltering.run .ample m).failure.isSome = true ∧
      faltering.Halts .ample m :=
  ⟨_, rfl, by decide +kernel, faltering.simulation_halts .ample .default _ rfl⟩

end Scenario

end EchoProbe
