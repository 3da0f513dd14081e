import EchoProbe.Proofs.Burst
import EchoProbe.Proofs.Tally

/-!
# How far a simulation reaches

A simulated clock goes as far as the script takes it, and no further than it can count. Each probe
is sent no later than an interval or a timeout after the settlement that makes room for it, and is
settled within the timeout; so the `k`-th settlement comes after no more than `k` such strides.

* `Config.stride` is the time by which one probe can put off the end, `Config.horizon` what all
  probes come to;
* `Timely` says that the flights keep to the strides, and `Measurement.exists_inTime_sendFrom` that
  those of one more burst do;
* `Simulation.Steady` is what holds all along, and `Simulation.Steady.step` that an event keeps it;
* `Scenario.Bounded` says that nothing overflows and nothing lies beyond the horizon, and
  `Scenario.bounded_of_horizon` that this is so if the clock can hold the horizon. The bound is
  attained (`Scenario.patient`).
-/

namespace EchoProbe

namespace Config

/-- The time by which one probe can put off the end, in nanoseconds: it waits for its turn in a
burst, and then for its settlement. -/
def stride (c : Config) : Nat := max c.interval.nanos c.timeout.nanos + c.timeout.nanos

/-- A stride for each probe. -/
def horizon (c : Config) : Nat := c.count.toNat * c.stride

theorem mul_stride_le_horizon {c : Config} {k : Nat} (h : k ≤ c.count.toNat) :
    k * c.stride ≤ c.horizon := Nat.mul_le_mul_right _ h

end Config

namespace Scenario

theorem lt_of_answer? {s : Scenario} {timeout roundTrip : Duration} {k : Nat} {reply : Probe}
    (h : s.answer? timeout k = some (roundTrip, reply)) : roundTrip < timeout := by
  unfold answer? at h
  cases hr : s.response k with
  | silence => rw [hr] at h; cases h
  | echo _ | icmp _ =>
    rw [hr] at h
    dsimp only at h
    split at h
    · rename_i hlt
      cases h
      exact hlt
    · cases h

theorem patience_le (s : Scenario) (timeout : Duration) (k : Nat) :
    (s.patience timeout k).nanos ≤ timeout.nanos := by
  unfold patience
  split
  · rename_i h
    exact Nat.le_of_lt (lt_of_answer? h)
  · exact Nat.le_refl _

end Scenario

/-! ### Counters -/

namespace Measurement

variable {σ : Type} {m : Measurement} {carrier : Carrier σ} {e : Event} {s : σ} {l : Ledger}

theorem size_sent_of_handle (h : (m.handle carrier e s).measurement.ledger? = some l) :
    l.sent.size =
      m.sentSoFar + ((m.handle carrier e s).actions.filterMap Action.accepted?).length := by
  have hpost := posting_of_ledger? h
  generalize (m.handle carrier e s).actions = as at hpost
  cases hpost with
  | opened hp =>
    rw [Ledger.recordAll_eq, sentSoFar, ledger?, hp]
    simp [Ledger.empty, Phase.ledger?]
  | dropped hp => rw [sentSoFar, ledger?_of_running hp]; rfl
  | late hp => rw [sentSoFar, ledger?_of_terminating hp]; rfl
  | closed hp hc =>
    rw [Ledger.recordAll_eq, sentSoFar, ledger?_of_running hp, hc.sent]
    simp

theorem losses_le_of_handle (hm : ∀ l, m.ledger? = some l → l.losses ≤ l.settled)
    (h : (m.handle carrier e s).measurement.ledger? = some l) : l.losses ≤ l.settled := by
  have hpost := posting_of_ledger? h
  generalize (m.handle carrier e s).actions = as at hpost
  cases hpost with
  | opened => rw [Ledger.recordAll_eq]; exact Nat.le_refl 0
  | dropped hp => exact hm l (ledger?_of_running hp)
  | late hp => exact hm l (ledger?_of_terminating hp)
  | @closed l₀ l' q as hp hc =>
    have hbefore := hm l₀ (ledger?_of_running hp)
    have hone : (if e.isTimeout then 1 else 0) ≤ 1 := by split <;> omega
    rw [Ledger.recordAll_eq]
    show l'.losses ≤ l'.settled
    rw [hc.losses, hc.settled]
    exact Nat.add_le_add hbefore hone

end Measurement

theorem Ledger.Full.settled_add_inFlight {c : Config} {l : Ledger} (hl : l.Full c) :
    l.settled + l.inFlight.length = l.sent.size := by
  have := hl.le_count
  have := hl.inFlight
  have := hl.sent
  omega

/-! ### Flights that keep to the strides -/

/-- Each flight is over after a stride for its probe and for each before it. -/
def Timely (c : Config) (fs : List Flight) : Prop :=
  ∀ (k : Nat) (f : Flight), fs[k]? = some f → f.appointment.due.nanos ≤ (k + 1) * c.stride

section

variable {s : Scenario} {c : Config} {fs : List Flight} {done : List Appointment} {w : World}

/-- All appointments come within a stride for each flight. -/
theorem Timely.due_le (ht : Timely c fs) (hw : w.Booked s c.timeout fs done) {a : Appointment}
    (ha : a ∈ done ++ w.agenda.toList) : a.due.nanos ≤ fs.length * c.stride := by
  obtain ⟨k, f, hk, rfl, -⟩ := hw.exists_flight ha
  have hlt : k + 1 ≤ fs.length := (List.getElem?_eq_some_iff.1 hk).1
  exact Nat.le_trans (ht k f hk) (Nat.mul_le_mul_right _ hlt)

/-- The clock has come no further. -/
theorem Timely.clock_le (ht : Timely c fs) (hw : w.Booked s c.timeout fs done) :
    w.clock.nanos ≤ fs.length * c.stride := by
  rw [hw.clock, lastDue]
  cases hd : done.getLast? with
  | none => exact Nat.zero_le _
  | some a => exact ht.due_le hw (List.mem_append_left _ (List.mem_of_getLast? hd))

/-- A burst that fits in the window is over a stride after the flights before it. -/
theorem Timely.burst (ht : Timely c fs) (hw : w.Booked s c.timeout fs done) {i : Nat}
    (hi : i ≤ c.window) :
    w.clock.nanos + (Measurement.copy c.echoSkeleton i).delay.offset.nanos + c.timeout.nanos ≤
      (fs.length + 1) * c.stride := by
  have hclock := ht.clock_le hw
  have hoffset := (Measurement.nanos_copy_echoSkeleton hi).2
  rw [Nat.succ_mul]
  unfold Config.stride at hclock ⊢
  omega

theorem Timely.append {w' : World} {gs : List Flight} (ht : Timely c fs)
    (hw : w.Booked s c.timeout fs done) (hw' : w'.Booked s c.timeout (fs ++ gs) done)
    (hgs : gs.length ≤ c.window)
    (hat : ∀ (j : Nat) (g : Flight), gs[j]? = some g → g.sentAt.nanos =
      w.clock.nanos + (Measurement.copy c.echoSkeleton (1 + j)).delay.offset.nanos) :
    Timely c (fs ++ gs) := by
  intro k f hf
  rcases Nat.lt_or_ge k fs.length with hk | hk
  · rw [List.getElem?_append_left hk] at hf
    exact ht k f hf
  · have hdue := (hw'.scripted k f hf).due
    rw [List.getElem?_append_right hk] at hf
    have hlt := (List.getElem?_eq_some_iff.1 hf).1
    have hburst := ht.burst hw (show 1 + (k - fs.length) ≤ c.window by omega)
    have hpatience := s.patience_le c.timeout k
    rw [hat _ f hf] at hdue
    calc f.appointment.due.nanos
      _ ≤ (fs.length + 1) * c.stride := by omega
      _ ≤ (k + 1) * c.stride := Nat.mul_le_mul_right _ (by omega)

end

/-! ### One event -/

/-- The clock can hold all times of a probe that is submitted when it shows `clock`: that at which
the probe is sent, since the start and by the calendar, and that at which it is settled, which does
not lie beyond the horizon. -/
def Scenario.Timed (s : Scenario) (c : Config) (clock : Duration) (p : Probe)
    (accepted : Option SentProbe) : Prop :=
  ∃ sentAt stamp, clock.add? p.delay.offset = some sentAt ∧ Instant.after? sentAt = some stamp ∧
    ∀ q, accepted = some q → ∃ a, s.appointment? c.timeout sentAt q = some a ∧
      a.due.nanos ≤ c.horizon

/-- Over an event, the clock can hold all times. -/
structure Turn.Timed (s : Scenario) (c : Config) (t : Turn World) : Prop where
  failure : t.failure ≠ some .clockOverflow
  submit (p : Probe) (accepted : Option SentProbe) :
    .submit p accepted ∈ t.actions → s.Timed c t.state.clock p accepted

theorem Action.filterMap_accepted?_eq_nil {as : List Action}
    (h : as.filterMap Action.submitted? = []) : as.filterMap Action.accepted? = [] := by
  refine List.filterMap_eq_nil_iff.2 fun a ha => ?_
  have hnone := List.filterMap_eq_nil_iff.1 h a ha
  cases a with
  | submit => cases hnone
  | raise => rfl
  | raiseTerminated => rfl
  | raiseError => rfl
  | throwEvent => rfl

theorem Action.submit_notMem {as : List Action} (h : as.filterMap Action.submitted? = [])
    (p : Probe) (accepted : Option SentProbe) : .submit p accepted ∉ as := by
  intro hmem
  cases List.filterMap_eq_nil_iff.1 h _ hmem

namespace Measurement

theorem exists_of_mem_submissions {skeleton p : Probe} {i : Nat} {ps : List SentProbe}
    {accepted : Option SentProbe} (h : .submit p accepted ∈ submissions skeleton i ps) :
    ∃ j q, ps[j]? = some q ∧ p = copy skeleton (i + j) ∧ accepted = some q := by
  induction ps generalizing i with
  | nil => cases h
  | cons q ps ih =>
    rcases List.mem_cons.1 h with h | h
    · cases h
      exact ⟨0, q, rfl, rfl, rfl⟩
    · obtain ⟨j, q', hj, hp, ha⟩ := ih h
      exact ⟨j + 1, q', hj, by rw [hp, Nat.add_assoc, Nat.add_comm 1 j], ha⟩

theorem state_conclude {σ : Type} (m : Measurement) (as : List Action) (p : Progress σ) :
    (m.conclude as p).state = p.state := by
  unfold conclude
  cases p.failure <;> rfl

theorem submit_mem_of_mem_conclude {σ : Type} {m : Measurement} {as : List Action} {p : Progress σ}
    (has : as.filterMap Action.submitted? = []) {q : Probe} {accepted : Option SentProbe}
    (h : .submit q accepted ∈ (m.conclude as p).actions) : .submit q accepted ∈ p.actions := by
  unfold conclude at h
  cases hf : p.failure with
  | none =>
    rw [hf] at h
    exact (List.mem_append.1 h).resolve_left (Action.submit_notMem has q accepted)
  | some e =>
    rw [hf] at h
    rcases List.mem_append.1 h with h | h
    · exact (List.mem_append.1 h).resolve_left (Action.submit_notMem has q accepted)
    · cases List.mem_singleton.1 h

variable {s : Scenario} {room : Room} {c : Config} {fs gs : List Flight}
  {done : List Appointment} {w w' : World}
  {m : Measurement}

theorem fits_of_lt {t k : Nat} (h : t + c.timeout.nanos < 2 ^ 63 * 10 ^ 9) :
    s.Fits c.timeout k t := by
  have hpatience := s.patience_le c.timeout k
  refine ⟨by omega, ?_⟩
  split <;> omega

/-- The clock can hold all times of a flight that keeps to the strides. -/
theorem timed_of_flight {p : Probe} {k : Nat} {g : Flight} (ht : Timely c fs)
    (hg : fs[k]? = some g) (hs : g.Scripted s c.timeout k) (hcount : fs.length ≤ c.count.toNat)
    (hat : g.sentAt.nanos = w.clock.nanos + p.delay.offset.nanos) :
    s.Timed c w.clock p (some g.sent) := by
  obtain ⟨stamp, hstamp, -⟩ := hs.stamp
  refine ⟨g.sentAt, stamp, Duration.add?_eq_some_iff.2 hat, hstamp, ?_⟩
  rintro q hq
  obtain rfl := Option.some.inj hq
  have hk : k + 1 ≤ c.count.toNat :=
    Nat.le_trans (List.getElem?_eq_some_iff.1 hg).1 hcount
  exact ⟨g.appointment, hs.appointment,
    Nat.le_trans (ht k g hg) (Config.mul_stride_le_horizon hk)⟩

theorem timed_of_refused {p : Probe} (h : w.clock.nanos + p.delay.offset.nanos < 2 ^ 63 * 10 ^ 9) :
    s.Timed c w.clock p none := by
  obtain ⟨x, hx⟩ := Scenario.exists_sendingTime? h
  obtain ⟨sentAt, hadd, hx⟩ := Option.bind_eq_some_iff.1 hx
  obtain ⟨stamp, hstamp, -⟩ := Option.bind_eq_some_iff.1 hx
  refine ⟨sentAt, stamp, hadd, hstamp, ?_⟩
  intro q hq
  cases hq

/-- After some actions, the flights `gs` have been booked in time, and the clock can hold all
times. -/
structure InTime (s : Scenario) (c : Config) (fs gs : List Flight) (done : List Appointment)
    (w : World) (as : List Action) (failure : Option Error) : Prop where
  booked : w.Booked s c.timeout (fs ++ gs) done
  timely : Timely c (fs ++ gs)
  le_count : (fs ++ gs).length ≤ c.count.toNat
  accepted : as.filterMap Action.accepted? = gs.map Flight.sent
  failure : failure ≠ some .clockOverflow
  submit (p : Probe) (accepted : Option SentProbe) :
    .submit p accepted ∈ as → s.Timed c w.clock p accepted

theorem inTime_of_quiet (hw : w.Booked s c.timeout fs done) (ht : Timely c fs)
    (hcount : fs.length ≤ c.count.toNat) {as : List Action} {failure : Option Error}
    (has : as.filterMap Action.submitted? = []) (hf : failure ≠ some .clockOverflow) :
    InTime s c fs [] done w as failure where
  booked := by rwa [List.append_nil]
  timely := by rwa [List.append_nil]
  le_count := by rwa [List.append_nil]
  accepted := Action.filterMap_accepted?_eq_nil has
  failure := hf
  submit p accepted hmem := (Action.submit_notMem has p accepted hmem).elim

/-- **A burst stays in time** if it fits in the window and in what is left to send. -/
theorem exists_inTime_sendFrom (hbound : c.horizon < 2 ^ 63 * 10 ^ 9)
    (hw : w.Booked s c.timeout fs done) (ht : Timely c fs) (hcount : fs.length ≤ c.count.toNat)
    {n : Nat} (hn : n ≤ c.window) (hleft : n ≤ c.count.toNat - fs.length) (l : Ledger) :
    ∃ gs, InTime s c fs gs done (sendFrom (s.carrier c.timeout room) c.echoSkeleton 1 n l w).state
      (sendFrom (s.carrier c.timeout room) c.echoSkeleton 1 n l w).actions
      (sendFrom (s.carrier c.timeout room) c.echoSkeleton 1 n l w).failure := by
  obtain ⟨gs, w', hb, hclock, hat, hcases⟩ := hw.burst c.echoSkeleton 1 n l
  have hgs : gs.length ≤ n := by
    rcases hcases with ⟨h, -⟩ | ⟨h, -⟩
    · exact Nat.le_of_eq h
    · exact Nat.le_of_lt h
  have htimely := ht.append hw hb (Nat.le_trans hgs hn) hat
  have hlen : (fs ++ gs).length ≤ c.count.toNat := by
    rw [List.length_append]
    omega
  -- a probe that is accepted has its flight
  have hflight : ∀ p accepted,
      .submit p accepted ∈ submissions c.echoSkeleton 1 (gs.map Flight.sent) →
      s.Timed c w'.clock p accepted := by
    intro p accepted hmem
    obtain ⟨j, q, hj, rfl, rfl⟩ := exists_of_mem_submissions hmem
    rw [List.getElem?_map] at hj
    obtain ⟨g, hg, rfl⟩ := Option.map_eq_some_iff.1 hj
    have hgk : (fs ++ gs)[fs.length + j]? = some g := by
      rw [List.getElem?_append_right (Nat.le_add_right _ _), Nat.add_sub_cancel_left]
      exact hg
    have hsentAt := hat j g hg
    rw [← hclock] at hsentAt
    exact timed_of_flight htimely hgk (hb.scripted _ g hgk) hlen hsentAt
  rcases hcases with ⟨-, h⟩ | ⟨hlt, e, he, h⟩
  · rw [h]
    exact ⟨gs, hb, htimely, hlen, filterMap_accepted?_submissions .., nofun, hflight⟩
  · -- one that is refused comes no later than the next stride ends
    have hrefused : w.clock.nanos + (copy c.echoSkeleton (1 + gs.length)).delay.offset.nanos +
        c.timeout.nanos < 2 ^ 63 * 10 ^ 9 :=
      calc w.clock.nanos + (copy c.echoSkeleton (1 + gs.length)).delay.offset.nanos +
            c.timeout.nanos
        _ ≤ (fs.length + 1) * c.stride := ht.burst hw (by omega)
        _ ≤ c.horizon := Config.mul_stride_le_horizon (by omega)
        _ < 2 ^ 63 * 10 ^ 9 := hbound
    rw [h]
    refine ⟨gs, hb, htimely, hlen, ?_, ?_, ?_⟩
    · rw [List.filterMap_append, filterMap_accepted?_submissions]
      exact List.append_nil _
    · rcases he with ⟨-, hfits⟩ | ⟨-, reason, rfl⟩
      · exact (hfits (fits_of_lt hrefused)).elim
      · exact fun heq => by cases heq
    · intro p accepted hmem
      rcases List.mem_append.1 hmem with hmem | hmem
      · exact hflight p accepted hmem
      · cases List.mem_singleton.1 hmem
        rw [← hclock] at hrefused
        exact timed_of_refused (Nat.lt_of_le_of_lt (Nat.le_add_right _ _) hrefused)

/-- **An event stays in time.** -/
theorem InStep.exists_inTime (hm : m.InStep c) (hskeleton : m.skeleton = c.echoSkeleton)
    (hbound : c.horizon < 2 ^ 63 * 10 ^ 9) (hw : w.Booked s c.timeout fs done)
    (ht : Timely c fs) (hcount : fs.length ≤ c.count.toNat) (hsent : fs.length = m.sentSoFar)
    (e : Event) :
    ∃ gs, InTime s c fs gs done (m.handle (s.carrier c.timeout room) e w).state
      (m.handle (s.carrier c.timeout room) e w).actions
      (m.handle (s.carrier c.timeout room) e w).failure := by
  have ho := hm.outlay (s.carrier c.timeout room) e w
  generalize m.handle (s.carrier c.timeout room) e w = turn at ho
  cases ho with
  | none hnone hstate hfail =>
    rw [hstate]
    exact ⟨[], inTime_of_quiet hw ht hcount hnone hfail⟩
  | @burst m' as n l has hn hleft =>
    rw [← hsent] at hleft
    rw [hskeleton, state_conclude, failure_conclude]
    obtain ⟨gs, h⟩ := exists_inTime_sendFrom hbound hw ht hcount hn hleft l
    refine ⟨gs, h.booked, h.timely, h.le_count, ?_, h.failure, ?_⟩
    · rw [filterMap_actions_conclude rfl, Action.filterMap_accepted?_eq_nil has]
      exact h.accepted
    · intro p accepted hmem
      exact h.submit p accepted (submit_mem_of_mem_conclude has hmem)

end Measurement

/-! ### All events -/

theorem Agenda.toList_of_next? {t t' : Agenda} {a : Appointment} (h : t.next? = some (a, t')) :
    t.toList = a :: t'.toList := by
  obtain ⟨as, has⟩ := t
  cases as with
  | nil => cases h
  | cons b bs => cases h; rfl

namespace Simulation

variable {s : Scenario} {room : Room} {c : Config} {fs : List Flight} {done : List Appointment}
  {sim sim' : Simulation} {t : Turn World}

theorem exists_booked_of_next? {timeout : Duration} {e : Event}
    (hw : sim.world.Booked s timeout fs done) (h : sim.next? = some (e, sim')) :
    ∃ done', sim'.world.Booked s timeout fs done' := by
  unfold next? at h
  split at h
  · cases h
    exact ⟨done, hw⟩
  · obtain ⟨⟨a, agenda⟩, hnext, ha⟩ := Option.map_eq_some_iff.1 h
    cases ha
    exact ⟨done ++ [a], hw.advance (Agenda.toList_of_next? hnext)⟩

/-- What holds all along: every flight so far keeps to the strides. -/
structure Steady (s : Scenario) (c : Config) (fs : List Flight) (done : List Appointment)
    (sim : Simulation) : Prop where
  task : Measurement.SameTask (.new c c.echoSkeleton none) sim.measurement
  inStep : sim.measurement.InStep c
  booked : sim.world.Booked s c.timeout fs done
  timely : Timely c fs
  le_count : fs.length ≤ c.count.toNat
  sent : sim.isFinished = false → fs.length = sim.measurement.sentSoFar
  losses : ∀ l, sim.measurement.ledger? = some l → l.losses ≤ l.settled

theorem steady_start (s : Scenario) (c : Config) :
    Steady s c [] [] (.ofMeasurement (.new c c.echoSkeleton none)) where
  task := ⟨rfl, rfl, rfl⟩
  inStep := (Life.paced_begin c c.echoSkeleton none).inStep
  booked := World.booked_start s c.timeout
  timely _ _ h := by cases h
  le_count := Nat.zero_le _
  sent _ := rfl
  losses _ h := by cases h

/-- **An event keeps the simulation steady**, and the clock can hold all times over it. -/
theorem Steady.step (h : Steady s c fs done sim) (hbound : c.horizon < 2 ^ 63 * 10 ^ 9)
    (hsim : sim.isFinished = false)
    (hstep : sim.step? (s.carrier c.timeout room) = some (t, sim')) :
    (∃ fs' done', Steady s c fs' done' sim') ∧ t.Timed s c := by
  obtain ⟨⟨e, sim₁⟩, hnext, hturn⟩ := Option.map_eq_some_iff.1 hstep
  obtain ⟨done', hw⟩ := exists_booked_of_next? h.booked hnext
  have hm := (measurement_of_next? hnext).1
  unfold dispatch at hturn
  rw [hm] at hturn
  cases hturn
  have htask := Measurement.handle_sameTask sim.measurement (s.carrier c.timeout room) e sim₁.world
  obtain ⟨gs, hin⟩ := h.inStep.exists_inTime h.task.skeleton hbound hw h.timely h.le_count
    (h.sent hsim) e
  refine ⟨⟨fs ++ gs, done', ?_, h.inStep.handle .., hin.booked, hin.timely, hin.le_count, ?_, ?_⟩,
    hin.failure, hin.submit⟩
  · exact ⟨htask.config.trans h.task.config, htask.skeleton.trans h.task.skeleton,
      htask.caller.trans h.task.caller⟩
  · intro hfin
    -- a measurement that is not at its end has a ledger
    cases hl : (sim.measurement.handle (s.carrier c.timeout room) e
        sim₁.world).measurement.ledger? with
    | none =>
      have hend := Measurement.isFinished_stage_of_ledger? hl
        (Measurement.handle_phase_ne_created _ _ _ _)
      cases hfin.symm.trans hend
    | some l =>
      have hsize := Measurement.size_sent_of_handle hl
      rw [hin.accepted, List.length_map, ← h.sent hsim] at hsize
      rw [Measurement.sentSoFar, hl, List.length_append]
      exact hsize.symm
  · intro l hl
    exact Measurement.losses_le_of_handle h.losses hl

theorem steady_of_follows (hbound : c.horizon < 2 ^ 63 * 10 ^ 9) {ts : List (Turn World)}
    (h : sim.Follows s room (.new c c.echoSkeleton none) ts) :
    (∃ fs done, Steady s c fs done sim) ∧ ∀ t ∈ ts, t.Timed s c := by
  refine Journey.invariant (P := fun ts sim => (∃ fs done, Steady s c fs done sim) ∧
    ∀ t ∈ ts, t.Timed s c) h ⟨⟨_, _, steady_start s c⟩, fun _ ht => by cases ht⟩ ?_
  rintro ts sim t sim' ⟨⟨fs, done, hs⟩, hts⟩ hsim hstep
  obtain ⟨hs', ht⟩ := hs.step hbound hsim hstep
  exact ⟨hs', List.forall_mem_append.2 ⟨hts, List.forall_mem_singleton.2 ht⟩⟩

/-- Nothing on the agenda is due after the horizon. -/
theorem Steady.due_le (h : Steady s c fs done sim) {a : Appointment}
    (ha : a ∈ sim.world.agenda.toList) : a.due.nanos ≤ c.horizon :=
  Nat.le_trans (h.timely.due_le h.booked (List.mem_append_right _ ha))
    (Config.mul_stride_le_horizon h.le_count)

theorem Steady.clock_le (h : Steady s c fs done sim) : sim.world.clock.nanos ≤ c.horizon :=
  Nat.le_trans (h.timely.clock_le h.booked) (Config.mul_stride_le_horizon h.le_count)

end Simulation

/-! ### The bound -/

open Simulation in
/-- In the simulation of `m`, nothing overflows, and nothing lies beyond the horizon. -/
structure Scenario.Bounded (s : Scenario) (room : Room) (flags : Flags) (m : Measurement) :
    Prop where
  /-- The clock can hold the times of every probe that is submitted. -/
  timed (ts : List (Turn World)) (sim : Simulation) : sim.Follows s room m ts →
    ∀ t ∈ ts, t.Timed s m.config
  /-- Where there are responses, one of them stands at the place that is looked up. -/
  response (k : Nat) : s.responses ≠ [] →
    s.responses[k % s.responses.length]? = some (s.response k)
  /-- No counter is less than what is taken from it. -/
  counters (ts : List (Turn World)) (sim : Simulation) (l : Ledger) : sim.Follows s room m ts →
    sim.measurement.ledger? = some l → l.losses ≤ l.settled ∧
      l.settled + l.inFlight.length = l.sent.size ∧ l.sent.size ≤ m.config.count.toNat ∧
      l.inFlight.length ≤ m.config.window
  /-- Nothing on the agenda is due after the horizon. -/
  agenda (ts : List (Turn World)) (sim : Simulation) : sim.Follows s room m ts →
    ∀ a ∈ sim.world.agenda.toList, a.due.nanos ≤ m.config.horizon
  /-- The end comes before the horizon, and there is an outcome. -/
  elapsed : ∃ o, simulate room s flags = .ok o ∧ o.elapsed.nanos ≤ m.config.horizon

/-- **A simulation stays within its horizon**, whatever its script says, if the clock can hold the
horizon. -/
theorem Scenario.bounded_of_horizon (s : Scenario) (room : Room) (flags : Flags)
    (m : Measurement)
    (hm : Measurement.build (s.config flags) none none = .ok m)
    (hbound : m.config.horizon < 2 ^ 63 * 10 ^ 9) : s.Bounded room flags m := by
  have hsim := simulate_of_build room hm
  obtain ⟨hv, rfl⟩ := Measurement.eq_new_of_build hm
  refine ⟨?_, ?_, ?_, ?_, ?_⟩
  · intro ts sim h
    exact (Simulation.steady_of_follows hbound h).2
  · intro k hne
    have hlt : k % s.responses.length < s.responses.length :=
      Nat.mod_lt _ (List.length_pos_iff.2 hne)
    rw [response, List.getElem?_eq_getElem hlt, Option.getD_some]
  · intro ts sim l h hl
    obtain ⟨⟨fs, done, hs⟩, -⟩ := Simulation.steady_of_follows hbound h
    obtain ⟨hfull, -⟩ := hs.inStep.full hl
    refine ⟨hs.losses l hl, hfull.settled_add_inFlight, ?_, ?_⟩
    · rw [hfull.sent]
      exact Nat.min_le_left _ _
    · rw [hfull.inFlight]
      exact Nat.min_le_left _ _
  · intro ts sim h a ha
    obtain ⟨⟨fs, done, hs⟩, -⟩ := Simulation.steady_of_follows hbound h
    exact hs.due_le ha
  · obtain ⟨ts, sim, h, hfin⟩ := Simulation.exists_follows s room hv
    obtain ⟨⟨fs, done, hs⟩, hts⟩ := Simulation.steady_of_follows hbound h
    rw [s.run_eq_shown hv h hfin, if_neg] at hsim
    · exact ⟨_, hsim, hs.clock_le⟩
    · intro hf
      obtain ⟨t, ht, htf⟩ := Option.bind_eq_some_iff.1 hf
      exact (hts t (List.mem_of_getLast? ht)).failure htf

namespace Scenario

/-- A measurement that takes as long as its horizon allows, just within what the clock can hold:
each probe waits for the one before to time out. -/
def patient : Scenario where
  name := "patient"
  target := .v4 (1#32).toFin
  count := some 250
  intervalMs := some (.ofNat (2 ^ 64 - 1))
  timeoutMs := some (.ofNat (2 ^ 64 - 1))
  maxTtl := none
  hosts := .empty
  sendFailure := none
  responses := []
  expected := none

theorem bounded_of_patient :
    ∃ m, Measurement.build (patient.config .default) none none = .ok m ∧
      m.config.horizon < 2 ^ 63 * 10 ^ 9 ∧ patient.Bounded .ample .default m ∧
      (patient.run .ample m).elapsed.nanos = m.config.horizon :=
  ⟨_, rfl, by decide +kernel, patient.bounded_of_horizon .ample .default _ rfl (by decide +kernel),
    by decide +kernel⟩

end Scenario

end EchoProbe
