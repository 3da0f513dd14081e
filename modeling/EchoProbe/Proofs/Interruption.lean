import EchoProbe.Proofs.Tally

/-!
# A refused probe cuts a simulation short

The network of a scenario may refuse one probe, chosen by its number. Until this probe is sent, all
goes as if the network accepted every probe, and the event over which it is refused is still told.

* `Scenario.unhindered` is the scenario in which the network accepts every probe;
* `Scenario.submit_unhindered` compares both networks over one probe, and
  `Simulation.Journey.unhindered` compares the two journeys event by event;
* `Config.settledBefore` is the number of probes that are settled before a probe is sent;
* `Scenario.CutShort` is the outcome of a refusal in terms of the outcome without it, and
  `Scenario.simulate_interrupted` says that a refusal has this outcome.
-/

namespace EchoProbe

/-- The same scenario, in which the network accepts every probe. -/
def Scenario.unhindered (s : Scenario) : Scenario := { s with sendFailure := none }

/-- What the network says when it refuses the `k`-th probe. -/
def Error.ofRefusal (k : Nat) : Error :=
  .sendFailure ("simulated send failure for probe " ++ toString k)

/-! ### One event -/

theorem Scenario.submit_unhindered (s : Scenario) (timeout : Duration) (w : World) (p : Probe) :
    s.submit timeout w p = s.unhindered.submit timeout w p ∨
      s.sendFailure.map UInt64.toNat = some w.accepted ∧
        s.submit timeout w p = (.error (.ofRefusal w.accepted), w) := by
  unfold submit
  cases sendingTime? w p with
  | none => exact .inl rfl
  | some x =>
    by_cases hk : s.sendFailure.map UInt64.toNat = some w.accepted
    · exact .inr ⟨hk, if_pos hk⟩
    · -- what becomes of a probe does not depend on which one is refused
      have hnone : ¬s.unhindered.sendFailure.map UInt64.toNat = some w.accepted :=
        fun h => by cases h
      refine .inl ?_
      simp only [if_neg hk, if_neg hnone]
      rfl

theorem Scenario.clock_submit (s : Scenario) (timeout : Duration) (w : World) (p : Probe) :
    (s.submit timeout w p).2.clock = w.clock := by
  rcases s.submit_cases timeout w p with ⟨f, -, -, h⟩ | ⟨e, -, h⟩ <;> rw [h]

namespace Measurement

theorem sendFrom_quiet (s : Scenario) (timeout : Duration) (room : Room) (skeleton : Probe)
    (i n : Nat) (l : Ledger) (w : World) :
    (sendFrom (s.carrier timeout room) skeleton i n l w).state.clock = w.clock ∧
      (sendFrom (s.carrier timeout room) skeleton i n l w).actions.filterMap Action.forUser? =
        [] := by
  induction n generalizing i l w with
  | zero => exact ⟨rfl, rfl⟩
  | succ n ih =>
    have hclock := s.clock_submit timeout w (copy skeleton i)
    rw [sendFrom]
    cases hs : (s.carrier timeout room).submit w (copy skeleton i) with
    | mk result w₁ =>
      change s.submit timeout w (copy skeleton i) = _ at hs
      rw [hs] at hclock
      cases result with
      | error e => exact ⟨hclock, rfl⟩
      | ok sent =>
        obtain ⟨h₁, h₂⟩ := ih (i + 1) (l.record sent) w₁
        exact ⟨h₁.trans hclock, h₂⟩

/-- A burst is the same in both networks, unless it ends with the probe that the script refuses. -/
theorem sendFrom_unhindered (s : Scenario) (timeout : Duration) (room : Room) (skeleton : Probe)
    (i n : Nat) (l : Ledger) (w : World) :
    sendFrom (s.carrier timeout room) skeleton i n l w =
        sendFrom (s.unhindered.carrier timeout room) skeleton i n l w ∨
      ∃ k, s.sendFailure.map UInt64.toNat = some k ∧
        (sendFrom (s.carrier timeout room) skeleton i n l w).failure = some (.ofRefusal k) ∧
        (sendFrom (s.carrier timeout room) skeleton i n l w).state.accepted = k := by
  induction n generalizing i l w with
  | zero => exact .inl rfl
  | succ n ih =>
    simp only [sendFrom, Scenario.carrier]
    rcases s.submit_unhindered timeout w (copy skeleton i) with h | ⟨hk, h⟩
    · rw [h]
      cases s.unhindered.submit timeout w (copy skeleton i) with
      | mk result w₁ =>
        cases result with
        | error e => exact .inl rfl
        | ok sent =>
          -- the first copy is accepted by both, and what comes of the others comes of all
          rcases ih (i + 1) (l.record sent) w₁ with hrest | ⟨k, hk, hfail, hacc⟩
          · refine .inl ?_
            simp only [Scenario.carrier] at hrest
            simp only [hrest]
          · exact .inr ⟨k, hk, hfail, hacc⟩
    · rw [h]
      exact .inr ⟨w.accepted, hk, rfl, rfl⟩

theorem told_conclude {m : Measurement} {as : List Action} {p : Progress World}
    (hp : p.actions.filterMap Action.forUser? = []) :
    (m.conclude as p).told = (as.filterMap Action.forUser?).map (p.state.clock, ·) := by
  unfold conclude
  cases p.failure with
  | none => simp [Turn.told, hp]
  | some e =>
    have hraise : Action.forUser? .raiseError = none := rfl
    simp [Turn.told, fail, hp, hraise]

end Measurement

namespace Simulation

variable {s : Scenario} {timeout : Duration} {room : Room} {sim sim' : Simulation}
  {t : Turn World} {ts : List (Turn World)}

/-- The next event is answered alike in both networks, unless the script refuses a probe over it;
and even then the user is told the same. -/
theorem step?_unhindered (h : sim.step? (s.carrier timeout room) = some (t, sim')) :
    sim.step? (s.unhindered.carrier timeout room) = some (t, sim') ∨
      ∃ k, s.sendFailure.map UInt64.toNat = some k ∧ t.failure = some (.ofRefusal k) ∧
        sim'.world.accepted = k ∧
        ∃ t' sim'', sim.step? (s.unhindered.carrier timeout room) = some (t', sim'') ∧
          t'.told = t.told := by
  obtain ⟨⟨e, sim₁⟩, hnext, hd⟩ := Option.map_eq_some_iff.1 h
  rcases Measurement.handle_uniform sim₁.measurement room e sim₁.world with
    ⟨turn, hturn⟩ | ⟨m, as, n, l, -, hturn⟩
  · refine .inl ?_
    rw [step?_of_next? hnext (hturn _ rfl)]
    rw [step?_of_next? hnext (hturn _ rfl)] at h
    exact h
  · obtain ⟨hclock, hquiet⟩ :=
      Measurement.sendFrom_quiet s timeout room m.skeleton 1 n l sim₁.world
    obtain ⟨hclock', hquiet'⟩ :=
      Measurement.sendFrom_quiet s.unhindered timeout room m.skeleton 1 n l sim₁.world
    have hstep := step?_of_next? hnext (hturn (s.unhindered.carrier timeout room) rfl)
    rw [step?_of_next? hnext (hturn (s.carrier timeout room) rfl)] at h
    rcases Measurement.sendFrom_unhindered s timeout room m.skeleton 1 n l sim₁.world with
      heq | ⟨k, hk, hfail, hacc⟩
    · rw [heq] at h
      exact .inl (hstep.trans h)
    · refine .inr ⟨k, hk, ?_, ?_, _, _, hstep, ?_⟩
      · cases h
        rw [Measurement.conclude, hfail]
        rfl
      · cases h
        rw [Measurement.conclude, hfail]
        exact hacc
      · cases h
        rw [Measurement.told_conclude hquiet', Measurement.told_conclude hquiet, hclock', hclock]

/-- **Both networks lead the same way**, up to the event over which the script refuses a probe; and
over this event, too, the user is told the same. -/
theorem Journey.unhindered (h : Journey (s.carrier timeout room) sim ts sim') :
    Journey (s.unhindered.carrier timeout room) sim ts sim' ∨
      ∃ k, s.sendFailure.map UInt64.toNat = some k ∧ sim'.world.accepted = k ∧
        (shown ts sim').failure = some (.ofRefusal k) ∧
        ∃ ts' sim'', Journey (s.unhindered.carrier timeout room) sim ts' sim'' ∧
          ts'.flatMap Turn.told = ts.flatMap Turn.told := by
  induction h with
  | nil sim => exact .inl (.nil sim)
  | @cons sim sim₁ sim₂ t ts hsim hstep hrest ih =>
    rcases step?_unhindered hstep with hstep' | ⟨k, hk, hfail, hacc, t', sim'', hstep', htold⟩
    · rcases ih with h | ⟨k, hk, hacc, hfail, ts', sim'', h, htold⟩
      · exact .inl (.cons hsim hstep' h)
      · refine .inr ⟨k, hk, hacc, ?_, t :: ts', sim'', .cons hsim hstep' h, ?_⟩
        · have hne : ts ≠ [] := by
            rintro rfl
            cases hfail
          rw [shown, List.getLast?_cons_of_ne_nil hne]
          exact hfail
        · rw [List.flatMap_cons, List.flatMap_cons, htold]
    · -- the refusal is the end
      have hst := (failure_of_step? hsim hstep).1.1 (by rw [hfail]; rfl)
      obtain ⟨rfl, rfl⟩ := hrest.eq_nil_of_isFinished (isFinished_of_stage hst)
      refine .inr ⟨k, hk, hacc, hfail, [t'], sim'', .cons hsim hstep' (.nil sim''), ?_⟩
      rw [List.flatMap_singleton, List.flatMap_singleton, htold]

end Simulation

/-! ### Whole runs -/

open Simulation in
/-- A run is what it would be without the refusal, or it breaks off over the refusal and shows what
the other one shows first. -/
theorem Scenario.run_unhindered (s : Scenario) (room : Room) {c : Config}
    (hv : c.validate = .ok ()) :
    ∃ ts sim, sim.Follows s room (.new c c.echoSkeleton none) ts ∧ sim.isFinished = true ∧
      s.run room (.new c c.echoSkeleton none) = shown ts sim ∧
      (shown ts sim = s.unhindered.run room (.new c c.echoSkeleton none) ∨
        ∃ k, s.sendFailure.map UInt64.toNat = some k ∧ sim.world.accepted = k ∧
          (shown ts sim).failure = some (.ofRefusal k) ∧
          (shown ts sim).trace <+: (s.unhindered.run room (.new c c.echoSkeleton none)).trace) := by
  obtain ⟨ts, sim, h, hsim⟩ := exists_follows s room hv
  refine ⟨ts, sim, h, hsim, s.run_eq_shown hv h hsim, ?_⟩
  rcases Journey.unhindered h with h' | ⟨k, hk, hacc, hfail, ts', sim', h', htold⟩
  · exact .inl (s.unhindered.run_eq_shown hv h' hsim).symm
  · -- the journey without the refusal goes on to its own end
    obtain ⟨ts'', sim'', h'', hsim''⟩ := exists_follows s.unhindered room hv
    obtain ⟨rest, rfl, -⟩ := h'.exists_rest h'' hsim''
    refine .inr ⟨k, hk, hacc, hfail, ?_⟩
    rw [s.unhindered.run_eq_shown hv h'' hsim'']
    show ts.flatMap Turn.told <+: (ts' ++ rest).flatMap Turn.told
    rw [List.flatMap_append, htold]
    exact List.prefix_append _ _

/-- As long as there are probes left to send, the user is told of each settlement and of nothing
else. -/
theorem chronicle_of_le {c : Config} {as : List Appointment}
    (h : ∀ a ∈ as, a.event.sent?.isSome = true) {r : Nat}
    (hr : r + as.length ≤ c.count.toNat - c.window) :
    (c.chronicle r as).map (·.1) = as.map Appointment.due ∧
      ∀ x ∈ c.chronicle r as, ∃ f : Finding, f.settles = true ∧ x.2 = .outward f := by
  induction as generalizing r with
  | nil => exact ⟨rfl, fun x hx => by cases hx⟩
  | cons a as ih =>
    obtain ⟨ha, has⟩ := List.forall_mem_cons.1 h
    obtain ⟨f, hf⟩ := Event.exists_finding?_of_sent? ha c.target
    rw [List.length_cons] at hr
    obtain ⟨htimes, hall⟩ := ih has (r := r + 1) (by omega)
    have hentries : c.entries (r + 1) a = [(a.due, .outward f)] := by
      rw [Simulation.entries_of_finding? hf, if_neg fun h => by omega]
    rw [Config.chronicle, hentries]
    refine ⟨congrArg (a.due :: ·) htimes, ?_⟩
    intro x hx
    rcases List.mem_cons.1 hx with rfl | hx
    · exact ⟨f, Event.settles_of_finding? hf, rfl⟩
    · exact hall x hx

/-- The number of probes that are settled before the `k`-th probe is sent. -/
def Config.settledBefore (c : Config) (k : Nat) : Nat := k + 1 - c.window

/-- The outcome `o` when the `k`-th probe is refused, in terms of the outcome `o'` when no probe
is. -/
structure Scenario.CutShort (s : Scenario) (room : Room) (m : Measurement) (k : Nat)
    (o o' : Outcome) : Prop where
  /-- The refusal is the failure. -/
  failure : o.failure = some (.sendFailure ("simulated send failure for probe " ++ toString k))
  /-- There is no final tally. -/
  summary : o.summary = none
  /-- The user is told the beginning of what there would be to tell. -/
  events : o.events = o'.events.take (1 + m.config.settledBefore k)
  /-- That is the start, and what became of the probes settled before; no wait, and no end. -/
  settlements : ∃ body, o.events = .start :: body ∧ body.length = m.config.settledBefore k ∧
    ∀ t ∈ body, ∃ f : Finding, f.settles = true ∧ t = .outward f.type
  /-- The report has the lines for that, and no others. -/
  lines : o.lines = Report.header { config := m.config, hosts := s.hosts } ::
    Report.renderAll { config := m.config, hosts := s.hosts }
      ((s.unhindered.run room m).trace.take (1 + m.config.settledBefore k))
  /-- The time taken is that of the last event told. -/
  elapsed : ((s.unhindered.run room m).trace.take (1 + m.config.settledBefore k)).getLast?.map
    (·.1) = some o.elapsed
  /-- It is none if no probe is settled before. -/
  idle : m.config.settledBefore k = 0 → o.elapsed = .zero
  /-- The network has accepted the probes before the refused one. -/
  accepted : ∃ ts sim, sim.Follows s room m ts ∧ sim.isFinished = true ∧
    s.run room m = Simulation.shown ts sim ∧ sim.world.accepted = k

namespace Refused

variable {s : Scenario} {room : Room} {c : Config} {fs : List Flight} {as : List Appointment}
  {w : World} {e : Error}

theorem chronicle (h : Refused s c fs as w e) :
    (c.chronicle 0 as).length = c.settledBefore fs.length ∧
      (c.cutRun as e).trace.getLast?.map (·.1) = some (lastDue as) ∧
      ∀ x ∈ c.chronicle 0 as, ∃ f : Finding, f.settles = true ∧ x.2 = .outward f := by
  have hsent : ∀ a ∈ as, a.event.sent?.isSome = true := by
    intro a ha
    obtain ⟨k, f, -, rfl, hf⟩ := h.booked.exists_flight (List.mem_append_left _ ha)
    rw [hf.sent?_event]
    rfl
  have hlength := h.length
  have hlt := h.lt_count
  have hle : 0 + as.length ≤ c.count.toNat - c.window := by omega
  obtain ⟨htimes, hall⟩ := chronicle_of_le hsent hle
  refine ⟨?_, ?_, hall⟩
  · rw [← List.length_map (·.1), htimes, List.length_map, hlength]
    rfl
  · show ((.zero, .start) :: c.chronicle 0 as).getLast?.map (·.1) = _
    rw [← List.getLast?_map, List.map_cons, htimes, lastDue, List.getLast?_cons,
      List.getLast?_map]

/-- A run that is refused a probe has the outcome of one that is cut short. -/
theorem cutShort {m : Measurement} {ts : List (Turn World)} {sim : Simulation}
    (h : Refused s m.config fs as sim.world (.ofRefusal fs.length))
    (hfollows : sim.Follows s room m ts) (hsim : sim.isFinished = true)
    (hrun : s.run room m = Simulation.shown ts sim)
    (hshown : Simulation.shown ts sim = m.config.cutRun as (.ofRefusal fs.length))
    (hfirst : (Simulation.shown ts sim).trace <+: (s.unhindered.run room m).trace) :
    s.CutShort room m fs.length
      ((Simulation.shown ts sim).outcome { config := m.config, hosts := s.hosts })
      ((s.unhindered.run room m).outcome { config := m.config, hosts := s.hosts }) := by
  obtain ⟨hlength, hlast, hall⟩ := h.chronicle
  -- what is told first is what is told up to the number of settlements
  have htake : (m.config.cutRun as (.ofRefusal fs.length)).trace =
      (s.unhindered.run room m).trace.take (1 + m.config.settledBefore fs.length) := by
    rw [hshown] at hfirst
    rw [List.prefix_iff_eq_take.1 hfirst, ← hlength, Nat.add_comm]
    rfl
  rw [hshown]
  refine ⟨rfl, ?_, ?_, ?_, ?_, ?_, ?_, ts, sim, hfollows, hsim, hrun, h.booked.accepted⟩
  · show ((m.config.cutRun as (.ofRefusal fs.length)).trace.filterMap
      (·.2.summary?)).getLast? = none
    rw [filterMap_summary?_cutRun]
    rfl
  · show (m.config.cutRun as (.ofRefusal fs.length)).trace.map (·.2.type) =
      ((s.unhindered.run room m).trace.map (·.2.type)).take _
    rw [htake, List.map_take]
  · refine ⟨(m.config.chronicle 0 as).map (·.2.type), rfl, by rw [List.length_map, hlength], ?_⟩
    intro t ht
    obtain ⟨x, hx, rfl⟩ := List.mem_map.1 ht
    obtain ⟨f, hf, he⟩ := hall x hx
    exact ⟨f, hf, by rw [he]; rfl⟩
  · show _ :: Report.renderAll _ (m.config.cutRun as (.ofRefusal fs.length)).trace = _
    rw [htake]
  · rw [← htake, hlast]
    rfl
  · intro hnone
    have hlen : as.length = 0 := h.length.trans hnone
    rw [List.eq_nil_of_length_eq_zero hlen]
    rfl

end Refused

namespace Scenario

theorem failure_unhindered (s : Scenario) {room : Room} {c : Config} (hv : c.validate = .ok ())
    (hroom : room c.count.toNat = true)
    (hclock : (s.unhindered.run room (.new c c.echoSkeleton none)).failure ≠ some .clockOverflow) :
    (s.unhindered.run room (.new c c.echoSkeleton none)).failure = none := by
  rcases s.unhindered.run_cases hv hroom with ⟨fs, as, w, e, hend, hr⟩ | ⟨fs, as, -, hr⟩
  · rcases hend.refusal with ⟨rfl, -⟩ | ⟨hnone, -⟩
    · rw [hr] at hclock
      exact (hclock rfl).elim
    · cases hnone
  · rw [hr]
    rfl

open Simulation in
theorem interruption_cases (s : Scenario) {room : Room} {c : Config} (hv : c.validate = .ok ())
    (hroom : room c.count.toNat = true) {k : Nat}
    (hk : s.sendFailure.map UInt64.toNat = some k)
    (hgood : (s.unhindered.run room (.new c c.echoSkeleton none)).failure = none) :
    (c.count.toNat ≤ k ∧
      s.run room (.new c c.echoSkeleton none) =
        s.unhindered.run room (.new c c.echoSkeleton none)) ∨
    ∃ fs as ts sim, fs.length = k ∧ Refused s c fs as sim.world (.ofRefusal fs.length) ∧
      sim.Follows s room (.new c c.echoSkeleton none) ts ∧ sim.isFinished = true ∧
      s.run room (.new c c.echoSkeleton none) = shown ts sim ∧
      shown ts sim = c.cutRun as (.ofRefusal fs.length) ∧
      (shown ts sim).trace <+: (s.unhindered.run room (.new c c.echoSkeleton none)).trace := by
  obtain ⟨ts, sim, h, hsim, hrun, hcases⟩ := s.run_unhindered room hv
  have hend := (Waypoint.of_follows hv h).end_cases hsim
  rcases hcases with heq | ⟨k', hk', hacc, hfail, hfirst⟩
  · refine .inl ⟨?_, hrun.trans heq⟩
    rw [← heq] at hgood
    rcases hend with ⟨hfull, -⟩ | ⟨fs, as, e, -, -, hshown⟩ | ⟨fs, as, hend, -, -⟩
    · cases hroom.symm.trans hfull
    · rw [hshown] at hgood
      cases hgood
    · -- all probes were sent, and the script let them pass
      by_contra hlt
      have hlt' : k < fs.length := by
        rw [hend.length]
        exact Nat.not_le.1 hlt
      exact (hend.scripted k _ (List.getElem?_eq_getElem hlt')).allowed hk
  · obtain rfl : k = k' := Option.some.inj (hk.symm.trans hk')
    rcases hend with ⟨hfull, -⟩ | ⟨fs, as, e, hend, -, hshown⟩ | ⟨fs, as, -, -, hshown⟩
    · cases hroom.symm.trans hfull
    · obtain rfl : fs.length = k := hend.booked.accepted.symm.trans hacc
      obtain rfl : e = .ofRefusal fs.length := by
        rw [hshown] at hfail
        exact Option.some.inj hfail
      exact .inr ⟨fs, as, ts, sim, rfl, hend, h, hsim, hrun, hshown, hfirst⟩
    · rw [hshown] at hfail
      cases hfail

/-- **A simulation whose network refuses a probe is the beginning of the simulation without the
refusal**, up to and with the settlement that makes room for this probe. If there are not so many
probes, the two are the same. -/
theorem simulate_interrupted (s : Scenario) (room : Room) (flags : Flags) (m : Measurement)
    (k : UInt64) (o' : Outcome) (hm : Measurement.build (s.config flags) none none = .ok m)
    (hk : s.sendFailure = some k) (hroom : room (s.config flags).count.toNat = true)
    (ho : simulate room s.unhindered flags = .ok o') :
    ∃ o, simulate room s flags = .ok o ∧ ((s.config flags).count ≤ k → o = o') ∧
      (k < (s.config flags).count → s.CutShort room m k.toNat o o') := by
  have hs := simulate_of_build room hm
  have hs' : simulate room s.unhindered flags =
      if (s.unhindered.run room m).failure = some .clockOverflow then .error .clockOverflow
      else .ok ((s.unhindered.run room m).outcome { config := m.config, hosts := s.hosts }) :=
    simulate_of_build (s := s.unhindered) room hm
  obtain ⟨hv, rfl⟩ := Measurement.eq_new_of_build hm
  rw [hs'] at ho
  split at ho
  · cases ho
  · rename_i hclock
    cases ho
    have hgood := s.failure_unhindered hv hroom hclock
    rcases s.interruption_cases hv hroom (by rw [hk]; rfl) hgood with
      ⟨hle, heq⟩ | ⟨fs, as, ts, sim, hlen, hend, h, hsim, hrun, hshown, hfirst⟩
    · rw [heq, if_neg hclock] at hs
      exact ⟨_, hs, fun _ => rfl, fun hlt => (Nat.not_lt.2 hle hlt).elim⟩
    · have hne : (Simulation.shown ts sim).failure ≠ some .clockOverflow := by
        rw [hshown]
        exact fun h => by cases h
      rw [hrun, if_neg hne] at hs
      refine ⟨_, hs, fun hle => ?_, fun _ => ?_⟩
      · have hlt := hend.lt_count
        rw [hlen] at hlt
        exact (Nat.not_lt.2 hle hlt).elim
      · rw [← hlen]
        exact hend.cutShort h hsim hrun hshown hfirst

theorem interruption_of_faltering :
    ∃ m o o', Measurement.build (faltering.config .default) none none = .ok m ∧
      faltering.sendFailure = some 3 ∧
      Room.ample (faltering.config .default).count.toNat = true ∧
      simulate .ample faltering.unhindered .default = .ok o' ∧
      simulate .ample faltering .default = .ok o ∧
      m.config.settledBefore 3 = 2 ∧ o.events.length = 3 ∧ faltering.CutShort .ample m 3 o o' := by
  obtain ⟨m, hm, hgood⟩ : ∃ m, Measurement.build (faltering.config .default) none none = .ok m ∧
      (faltering.unhindered.run .ample m).failure = none := ⟨_, rfl, by decide +kernel⟩
  have ho := simulate_of_build (s := faltering.unhindered) .ample hm
  rw [if_neg (by rw [hgood]; exact fun h => by cases h)] at ho
  obtain ⟨o, h, -, hcut⟩ :=
    faltering.simulate_interrupted .ample .default m 3 _ hm rfl rfl ho
  have hcut := hcut (by decide)
  have hconfig : m.config = faltering.config .default := by
    obtain ⟨-, rfl⟩ := Measurement.eq_new_of_build hm
    rfl
  have hrounds : m.config.settledBefore 3 = 2 := by
    rw [hconfig]
    decide +kernel
  obtain ⟨body, hevents, hlength, -⟩ := hcut.settlements
  refine ⟨m, o, _, hm, rfl, rfl, ho, h, hrounds, ?_, hcut⟩
  rw [hevents, List.length_cons, hlength]
  exact congrArg (· + 1) hrounds

end Scenario

end EchoProbe
