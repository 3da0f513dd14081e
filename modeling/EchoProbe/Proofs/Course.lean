import EchoProbe.Proofs.Flight
import EchoProbe.Proofs.Journey

/-!
# The course of a simulation

A simulation goes from one appointment to the next; each settles a probe, and may send another one.

* `Ledger.Shows` says that a ledger shows what is past and what lies ahead;
* `Completed` and `Refused` are the two ends that a simulation can come to;
* `Simulation.start_cases` says what comes of the start;
* `Simulation.Underway` is what holds between two events, and `Simulation.Underway.step` what comes
  of the next appointment.
-/

namespace EchoProbe

/-- The ledger shows the flights `fs`, of which the appointments `done` are past and those in
`ahead` are not. -/
structure Ledger.Shows (target : IpAddr) (fs : List Flight) (done ahead : List Appointment)
    (l : Ledger) : Prop where
  sent : l.sent.toList = fs.map Flight.sent
  inFlight : (l.inFlight.map some).Perm (ahead.map (·.event.sent?))
  settled : l.settled = done.length
  losses : l.losses = done.countP (·.event.isTimeout)
  samples : l.samples.toList = done.filterMap (·.event.sample? target)

namespace Ledger

variable {target : IpAddr} {fs : List Flight} {done ahead : List Appointment} {l : Ledger}

theorem shows_empty : empty.Shows target [] [] [] := ⟨rfl, .refl _, rfl, rfl, rfl⟩

/-- The probes in flight are those that the appointments ahead are about. -/
theorem Shows.perm_number (hl : l.Shows target fs done ahead) :
    (l.inFlight.map SentProbe.id).Perm (ahead.map Appointment.number) := by
  have h := hl.inFlight.map fun x : Option SentProbe => x.elim 0 SentProbe.id
  rw [List.map_map, List.map_map] at h
  exact h

/-- The next appointment settles the probe that it is about. -/
theorem Shows.settle {a : Appointment} (hl : l.Shows target fs done (a :: ahead))
    (hn : ((a :: ahead).map Appointment.number).Nodup) (ha : a.event.sent?.isSome = true) :
    ∃ q l', l.close? target a.event = some l' ∧ l.Closes target a.event q l' ∧
      l'.Shows target fs (done ++ [a]) ahead := by
  -- the probe is in flight, so that the event closes something
  obtain ⟨p, hp⟩ := Option.isSome_iff_exists.1 ha
  have hmem : p ∈ l.inFlight := by
    have h : some p ∈ l.inFlight.map some := by
      rw [hl.inFlight.mem_iff, ← hp]
      exact List.mem_cons_self
    obtain ⟨p', hp', he⟩ := List.mem_map.1 h
    exact Option.some.inj he ▸ hp'
  have hcarries : a.event.carries p = true := Event.carries_iff.2 ⟨p, hp, rfl⟩
  cases hc : l.close? target a.event with
  | none =>
    rw [close?_eq_none_iff.1 hc p hmem] at hcarries
    cases hcarries
  | some l' =>
    obtain ⟨q, hq⟩ := closes_of_close? hc
    -- and what it closes is that probe, as identities are distinct
    have hids : (l.inFlight.map SentProbe.id).Nodup := hl.perm_number.nodup_iff.2 hn
    have hpq : p = q := by
      rcases List.mem_cons.1 (hq.inFlight.mem_iff.1 hmem) with h | h
      · exact h
      · have hnd := ((hq.inFlight.map SentProbe.id).nodup_iff).1 hids
        rw [List.map_cons, List.nodup_cons] at hnd
        refine (hnd.1 ?_).elim
        rw [← Event.id_eq_of_carries hcarries hq.carries]
        exact List.mem_map_of_mem h
    subst hpq
    refine ⟨p, l', rfl, hq, ?_, ?_, ?_, ?_, ?_⟩
    · rw [hq.sent]
      exact hl.sent
    · have h := (hq.inFlight.map some).symm.trans hl.inFlight
      rw [List.map_cons, List.map_cons, hp] at h
      exact h.cons_inv
    · rw [hq.settled, hl.settled, List.length_append]
      rfl
    · rw [hq.losses, hl.losses, List.countP_append, List.countP_singleton]
    · rw [hq.samples, hl.samples, List.filterMap_append]
      cases hd : a.event.sample? target <;> simp [hd]

theorem Shows.send {gs : List Flight} {ahead' : List Appointment}
    (hl : l.Shows target fs done ahead) (ha : ahead'.Perm (ahead ++ gs.map Flight.appointment))
    (hgs : ∀ g ∈ gs, g.appointment.event.sent? = some g.sent) :
    (l.recordAll (gs.map Flight.sent)).Shows target (fs ++ gs) done ahead' := by
  have hsent : (gs.map Flight.sent).map some =
      (gs.map Flight.appointment).map (·.event.sent?) := by
    rw [List.map_map, List.map_map]
    exact List.map_congr_left fun g hg => (hgs g hg).symm
  rw [recordAll_eq]
  refine ⟨?_, ?_, hl.settled, hl.losses, hl.samples⟩
  · rw [Array.toList_append, hl.sent, List.map_append]
  · refine .trans ?_ (ha.map _).symm
    rw [List.map_append, List.map_append, hsent]
    exact hl.inFlight.append_right _

end Ledger

namespace World.Booked

variable {s : Scenario} {timeout : Duration} {fs gs : List Flight} {done : List Appointment}
  {w w' : World}

theorem perm_range (hw : w.Booked s timeout fs done) :
    ((done ++ w.agenda.toList).map Appointment.number).Perm (List.range fs.length) :=
  (hw.perm.map _).trans (.of_eq (map_number_flights hw.scripted))

theorem nodup_ahead (hw : w.Booked s timeout fs done) :
    (w.agenda.toList.map Appointment.number).Nodup := by
  have h := hw.perm_range.nodup_iff.2 List.nodup_range
  rw [List.map_append] at h
  exact (List.nodup_append.1 h).2.1

/-- What lies ahead after a burst is what lay ahead before and the new appointments. -/
theorem perm_ahead (hw : w.Booked s timeout fs done) (hw' : w'.Booked s timeout (fs ++ gs) done) :
    w'.agenda.toList.Perm (w.agenda.toList ++ gs.map Flight.appointment) := by
  have h := hw'.perm
  rw [List.map_append] at h
  have h' := h.trans (hw.perm.symm.append_right _)
  rw [List.append_assoc] at h'
  exact (List.perm_append_left_iff done).1 h'

end World.Booked

/-! ### What the user is told -/

namespace Config

/-- What the user is told of the `r`-th settlement. -/
def entries (c : Config) (r : Nat) (a : Appointment) : List (Duration × Event) :=
  let wait : List Finding :=
    if c.count.toNat - c.window < r ∧ r < c.count.toNat then [.wait] else []
  ((a.event.finding? c.target).toList ++ wait).map fun f => (a.due, .outward f)

/-- What the user is told of the settlements after the first `r`. -/
def chronicle (c : Config) : (r : Nat) → List Appointment → List (Duration × Event)
  | _, [] => []
  | r, a :: as => c.entries (r + 1) a ++ c.chronicle (r + 1) as

/-- The tally after all settlements. -/
def tally (c : Config) (as : List Appointment) : Summary where
  transmitted := c.count.toNat
  received := c.count.toNat - as.countP (·.event.isTimeout)
  losses := as.countP (·.event.isTimeout)
  roundTrips := Statistics.ofDurations? (as.filterMap (·.event.sample? c.target))

/-- What the user is told at the end. -/
def closing (c : Config) (as : List Appointment) : List (Duration × Event) :=
  [(lastDue as, .outward (.allProbesSent (c.tally as))), (lastDue as, .terminated)]

/-- The run in which the settlements `as` follow each other. -/
def fullRun (c : Config) (as : List Appointment) : Run :=
  ⟨(.zero, .start) :: (c.chronicle 0 as ++ c.closing as), lastDue as, none⟩

/-- The run that ends with a failure after the settlements `as`. -/
def cutRun (c : Config) (as : List Appointment) (e : Error) : Run :=
  ⟨(.zero, .start) :: c.chronicle 0 as, lastDue as, some e⟩

end Config

/-- All probes are sent and settled, in the order `as`. -/
structure Completed (s : Scenario) (c : Config) (fs : List Flight) (as : List Appointment) :
    Prop where
  length : fs.length = c.count.toNat
  scripted : ∀ (k : Nat) (f : Flight), fs[k]? = some f → f.Scripted s c.timeout k
  perm : as.Perm (fs.map Flight.appointment)
  ordered : as.Pairwise Appointment.Before
  punctual : Punctual s c fs

theorem Completed.length_appointments {s : Scenario} {c : Config} {fs : List Flight}
    {as : List Appointment} (h : Completed s c fs as) : as.length = c.count.toNat := by
  rw [h.perm.length_eq, List.length_map, h.length]

/-- The probe after the flights `fs` is refused, when the appointments `as` are past. -/
structure Refused (s : Scenario) (c : Config) (fs : List Flight) (as : List Appointment)
    (w : World) (e : Error) : Prop where
  booked : w.Booked s c.timeout fs as
  punctual : Punctual s c fs
  /-- It is the settlement of the last of them that made room for the probe. -/
  length : as.length = fs.length + 1 - c.window
  lt_count : fs.length < c.count.toNat
  refusal : s.Refusal c.timeout fs.length (s.sendingTime c fs.length) e

namespace Measurement

theorem eq_new_of_build {c : Config} {m : Measurement}
    (h : build c none none = .ok m) : c.validate = .ok () ∧ m = new c c.echoSkeleton none := by
  unfold build at h
  cases hv : c.validate with
  | error e => rw [hv] at h; cases h
  | ok u => rw [hv] at h; cases h; exact ⟨rfl, rfl⟩

theorem handle_start_new {σ : Type} (carrier : Carrier σ) {c : Config} (hv : c.validate = .ok ())
    (hroom : carrier.room c.count.toNat = true) (skeleton : Probe) (caller : Option InstanceId)
    (s : σ) :
    (new c skeleton caller).handle carrier .start s =
      conclude { new c skeleton caller with window := c.window } [.throwEvent caller .start]
        (schedule { new c skeleton caller with window := c.window } carrier .empty s) := by
  show (new c skeleton caller).start carrier s = _
  simp only [start, new, hv, hroom]

end Measurement

namespace Simulation

variable {s : Scenario} {room : Room} {c : Config} {fs : List Flight} {done : List Appointment}
  {l : Ledger} {sim : Simulation}

/-- Between two events, the simulation of a measurement that is neither at its start nor at its
end. -/
structure Underway (s : Scenario) (c : Config) (fs : List Flight) (done : List Appointment)
    (l : Ledger) (sim : Simulation) : Prop where
  task : Measurement.SameTask (.new c c.echoSkeleton none) sim.measurement
  window : sim.measurement.window = c.window
  phase : sim.measurement.phase = .running l
  pending : sim.pending = []
  booked : sim.world.Booked s c.timeout fs done
  shows : l.Shows c.target fs done sim.world.agenda.toList
  full : l.Full c
  lt_count : l.settled < c.count.toNat
  punctual : Punctual s c fs

theorem Underway.config (hu : Underway s c fs done l sim) : sim.measurement.config = c :=
  hu.task.config

theorem Underway.skeleton (hu : Underway s c fs done l sim) :
    sim.measurement.skeleton = c.echoSkeleton := hu.task.skeleton

theorem Underway.sameTask (hu : Underway s c fs done l sim) (p : Phase) :
    Measurement.SameTask (.new c c.echoSkeleton none) { sim.measurement with phase := p } :=
  ⟨hu.task.config, hu.task.skeleton, hu.task.caller⟩

theorem Underway.exists_next (hu : Underway s c fs done l sim) :
    ∃ a agenda, sim.world.agenda.toList = a :: agenda.toList ∧
      sim.next? =
        some (a.event, { sim with world := { sim.world with clock := a.due, agenda } }) := by
  have hlen := hu.shows.inFlight.length_eq
  rw [List.length_map, List.length_map, hu.full.inFlight] at hlen
  have hw : 0 < c.window := Config.window_pos (Nat.lt_of_le_of_lt (Nat.zero_le _) hu.lt_count)
  have hlt := hu.lt_count
  cases ha : sim.world.agenda.toList with
  | nil =>
    rw [ha, List.length_nil] at hlen
    omega
  | cons a as =>
    obtain ⟨agenda, hnext, rfl⟩ := Agenda.next?_of_toList ha
    refine ⟨a, agenda, rfl, ?_⟩
    rw [next?, hu.pending]
    simp only [hnext, Option.map_some]

/-- The next appointment settles its probe: `w` is the world at that moment, and `l'` the ledger
just after it. -/
structure Settling (s : Scenario) (room : Room) (c : Config) (fs : List Flight)
    (done : List Appointment) (sim : Simulation) (a : Appointment) (f : Finding) (w : World)
    (l' : Ledger) : Prop where
  next : sim.next? = some (a.event, { sim with world := w })
  finding : a.event.finding? c.target = some f
  handle : sim.measurement.handle (s.carrier c.timeout room) a.event w =
    sim.measurement.conclude [.raise f] (sim.measurement.schedule (s.carrier c.timeout room) l' w)
  booked : w.Booked s c.timeout fs (done ++ [a])
  shows : l'.Shows c.target fs (done ++ [a]) w.agenda.toList
  reopened : Measurement.Reopened c l'

theorem Underway.settling (hu : Underway s c fs done l sim) :
    ∃ a f w l', Settling s room c fs done sim a f w l' := by
  obtain ⟨a, agenda, hahead, hnext⟩ := hu.exists_next
  have hconf := hu.config
  -- the event is about a probe in flight
  obtain ⟨k, g, -, hga, hg⟩ := hu.booked.exists_flight (a := a) (by
    rw [hahead]
    exact List.mem_append_right _ List.mem_cons_self)
  have hsent : a.event.sent?.isSome = true := by rw [← hga, hg.sent?_event]; rfl
  obtain ⟨f, hf⟩ := Event.exists_finding?_of_sent? hsent c.target
  have hshows := hu.shows
  have hnd := hu.booked.nodup_ahead
  rw [hahead] at hshows hnd
  obtain ⟨q, l', hclose, hcl, hshows'⟩ := hshows.settle hnd hsent
  refine ⟨a, f, _, l', hnext, hf, ?_, hu.booked.advance hahead, hshows',
    Measurement.reopened_of_closes hu.full hu.lt_count hcl⟩
  exact Measurement.handle_of_close? hu.phase (hconf.symm ▸ hclose) (hconf.symm ▸ hf) _

/-- All probes are settled, in the order `as`, and it remains to stop the measurement. -/
structure Closing (as : List Appointment) (sim : Simulation) : Prop where
  caller : sim.measurement.caller = none
  phase : ∃ l, sim.measurement.phase = .terminating l
  clock : sim.world.clock = lastDue as
  pending : sim.pending = [.terminated]

theorem Closing.step {as : List Appointment} (h : Closing as sim) :
    ∃ t sim', (∀ carrier, sim.step? carrier = some (t, sim')) ∧
      t.told = [(lastDue as, .terminated)] ∧ t.failure = none ∧
      sim'.measurement.stage = .terminated ∧ sim'.world.clock = lastDue as := by
  obtain ⟨l, hl⟩ := h.phase
  have hnext : sim.next? = some (.terminated, { sim with pending := [] }) := by
    rw [next?, h.pending]
  have hturn : ∀ carrier, sim.measurement.handle carrier .terminated sim.world =
      ⟨{ sim.measurement with phase := .terminated }, sim.world,
        [.throwEvent none .terminated], none⟩ := by
    intro carrier
    simp only [Measurement.handle, hl, Measurement.stop, h.caller]
  refine ⟨_, _, fun carrier => step?_of_next? hnext (hturn carrier), ?_, rfl, rfl, h.clock⟩
  show [(sim.world.clock, Event.terminated)] = _
  rw [h.clock]

theorem entries_of_finding? {a : Appointment} {f : Finding}
    (hf : a.event.finding? c.target = some f) (r : Nat) :
    c.entries r a = (a.due, .outward f) ::
      if c.count.toNat - c.window < r ∧ r < c.count.toNat then [(a.due, .outward .wait)]
      else [] := by
  rw [Config.entries, hf]
  split <;> rfl

section

variable {a : Appointment} {f : Finding} {w : World} {l' : Ledger}

theorem Settling.settled (h : Settling s room c fs done sim a f w l') :
    l'.settled = done.length + 1 := by
  rw [h.shows.settled, List.length_append]
  rfl

theorem Settling.clock (h : Settling s room c fs done sim a f w l') : w.clock = a.due := by
  rw [h.booked.clock, lastDue_concat]

theorem Settling.length_flights (h : Settling s room c fs done sim a f w l') :
    fs.length = min c.count.toNat (l'.settled + c.window - 1) := by
  rw [← h.reopened.sent, ← Array.length_toList, h.shows.sent, List.length_map]

/-- The simulation goes on from the decision that follows the settlement. -/
theorem Settling.step (h : Settling s room c fs done sim a f w l') (hpending : sim.pending = [])
    {p : Phase} {w' : World} {as : List Action} {us es : List Event}
    (hs : sim.measurement.schedule (s.carrier c.timeout room) l' w = ⟨p, w', as, none⟩)
    (hus : as.filterMap Action.forUser? = us) (hes : as.filterMap Action.forInstance? = es) :
    Step (s.carrier c.timeout room) sim ((w'.clock, .outward f) :: us.map (w'.clock, ·)) none
      ⟨{ sim.measurement with phase := p }, w', es⟩ := by
  have hturn := h.handle
  rw [hs] at hturn
  have hus' : (Action.raise f :: as).filterMap Action.forUser? = .outward f :: us := by
    rw [← hus]
    rfl
  have hes' : (Action.raise f :: as).filterMap Action.forInstance? = es := by
    rw [List.filterMap_cons_none rfl, hes]
  have hstep := step_of_next? h.next hturn hus' hes'
  rw [hpending] at hstep
  exact hstep

/-- A probe that is sent when a settlement has made room for it keeps to the plan. -/
theorem Settling.sendingTime (h : Settling s room c fs done sim a f w l') (hp : Punctual s c fs)
    (hlen : fs.length = done.length + c.window) :
    s.sendingTime c fs.length = c.interval.nanos + a.due.nanos := by
  -- the settlement has the place in the plan that the recurrence looks at
  have hplan := map_slot_eq_plan h.booked.scripted hp h.booked.perm h.booked.ordered
  have hslot : (s.plan c fs.length)[fs.length - c.window]? = some a.slot := by
    rw [← hplan, hlen, Nat.add_sub_cancel, List.getElem?_map, List.append_assoc,
      List.getElem?_append_right (Nat.le_refl _), Nat.sub_self]
    rfl
  exact s.sendingTime_of_slot c (by omega) hslot

theorem Settling.wait (h : Settling s room c fs done sim a f w l') (hu : Underway s c fs done l sim)
    (hr : c.count.toNat - c.window < l'.settled) (hlt : l'.settled < c.count.toNat) :
    ∃ sim', Underway s c fs (done ++ [a]) l' sim' ∧
      Step (s.carrier c.timeout room) sim (c.entries (done.length + 1) a) none sim' := by
  have hdrain :=
    Measurement.schedule_drain hu.config h.reopened hr (s.carrier c.timeout room) w
  rw [if_neg (Nat.ne_of_lt hlt)] at hdrain
  have hstep := h.step hu.pending hdrain rfl rfl
  rw [entries_of_finding? h.finding, ← h.settled, if_pos ⟨hr, hlt⟩, ← h.clock]
  exact ⟨⟨{ sim.measurement with phase := .running l' }, w, []⟩,
    ⟨hu.sameTask _, hu.window, rfl, rfl, h.booked, h.shows, h.reopened.full hr, hlt, hu.punctual⟩,
    hstep⟩

theorem Settling.finish (h : Settling s room c fs done sim a f w l')
    (hu : Underway s c fs done l sim) (heq : l'.settled = c.count.toNat) :
    Completed s c fs (done ++ [a]) ∧ ∃ sim', Closing (done ++ [a]) sim' ∧
      Step (s.carrier c.timeout room) sim (c.entries (done.length + 1) a ++
        [(lastDue (done ++ [a]), .outward (.allProbesSent (c.tally (done ++ [a]))))]) none
        sim' := by
  have hwpos : 0 < c.window := Config.window_pos (heq ▸ h.reopened.pos)
  have hpos := h.reopened.pos
  have hlen : fs.length = c.count.toNat := by
    have := h.length_flights
    omega
  have hdrain := Measurement.schedule_drain hu.config h.reopened (by omega)
    (s.carrier c.timeout room) w
  rw [if_pos heq] at hdrain
  -- nothing is left on the agenda
  have hagenda : w.agenda.toList = [] := by
    have hperm := h.booked.perm.length_eq
    rw [List.length_append, List.length_map, ← h.shows.settled, heq, hlen] at hperm
    exact List.eq_nil_of_length_eq_zero (by omega)
  have hperm := h.booked.perm
  have hord := h.booked.ordered
  rw [hagenda, List.append_nil] at hperm hord
  have hsummary : l'.summary = c.tally (done ++ [a]) := by
    rw [Ledger.summary, Ledger.statistics?, h.shows.samples, h.shows.losses, heq,
      ← Array.length_toList, h.shows.sent, List.length_map, hlen]
    rfl
  refine ⟨⟨hlen, h.booked.scripted, hperm, hord, hu.punctual⟩,
    ⟨{ sim.measurement with phase := .terminating l' }, w, [.terminated]⟩,
    ⟨hu.task.caller, ⟨l', rfl⟩, h.booked.clock, rfl⟩, ?_⟩
  have hstep := h.step hu.pending hdrain rfl (show _ = [Event.terminated] from rfl)
  rw [entries_of_finding? h.finding, ← h.settled, if_neg fun h' => Nat.lt_irrefl _ (heq ▸ h'.2),
    lastDue_concat, ← hsummary, ← h.clock]
  exact hstep

theorem Settling.refill (h : Settling s room c fs done sim a f w l')
    (hu : Underway s c fs done l sim) (hr : l'.settled ≤ c.count.toNat - c.window) :
    (∃ e sim', Refused s c fs (done ++ [a]) sim'.world e ∧
      Step (s.carrier c.timeout room) sim (c.entries (done.length + 1) a) (some e) sim') ∨
    ∃ g sim', Underway s c (fs ++ [g]) (done ++ [a]) (l'.record g.sent) sim' ∧
      Step (s.carrier c.timeout room) sim (c.entries (done.length + 1) a) none sim' := by
  have hset := h.settled
  have hlen : fs.length = done.length + c.window := by
    have := h.length_flights
    have := c.window_le_count
    omega
  have hrefill := Measurement.schedule_refill hu.config hu.window h.reopened hr
    (s.carrier c.timeout room) w
  rw [hu.skeleton] at hrefill
  have htime : w.clock.nanos + min (1 + 0) (2 ^ 32 - 1) * c.interval.nanos =
      s.sendingTime c fs.length := by
    have hone : min (1 + 0) (2 ^ 32 - 1) = 1 := rfl
    rw [h.sendingTime hu.punctual hlen, h.clock, hone, Nat.one_mul, Nat.add_comm]
  rw [entries_of_finding? h.finding, ← hset, if_neg fun h' => Nat.not_lt.2 hr h'.1, ← h.clock]
  obtain ⟨gs, w', hb, hclock, hat, ⟨hgs, hsend⟩ | ⟨hgs, e, he, hsend⟩⟩ :=
    h.booked.burst c.echoSkeleton 1 1 l'
  · obtain ⟨g, rfl⟩ := List.length_eq_one_iff.1 hgs
    have hg : g.Scripted s c.timeout fs.length :=
      hb.scripted fs.length g List.getElem?_concat_length
    have hpunctual : Punctual s c (fs ++ [g]) :=
      forall_getElem?_concat hu.punctual ((hg.sentAt_eq (hat 0 g rfl)).trans htime)
    have hshows : (l'.record g.sent).Shows c.target (fs ++ [g]) (done ++ [a])
        w'.agenda.toList := by
      refine h.shows.send (h.booked.perm_ahead hb) ?_
      intro g' hg'
      rw [List.mem_singleton.1 hg']
      exact hg.sent?_event
    obtain ⟨hfull, hlt⟩ := h.reopened.full_record hr g.sent
    have hstep := h.step hu.pending (hrefill.trans hsend) rfl rfl
    rw [hclock] at hstep
    exact .inr ⟨g, ⟨{ sim.measurement with phase := .running (l'.record g.sent) }, w', []⟩,
      ⟨hu.sameTask _, hu.window, rfl, rfl, hb, hshows, hfull, hlt, hpunctual⟩, hstep⟩
  · obtain rfl : gs = [] := List.eq_nil_of_length_eq_zero (Nat.lt_one_iff.1 hgs)
    have he' := he.unbounded
    rw [List.append_nil] at hb he'
    rw [List.length_nil, htime] at he'
    have hturn := h.handle
    rw [hrefill, hsend] at hturn
    have hstep := step_of_next? h.next hturn (show _ = [Event.outward f] from rfl) rfl
    rw [hclock] at hstep
    refine .inl ⟨e, _, ⟨hb, hu.punctual, ?_, ?_, he'⟩, hstep⟩
    · rw [List.length_append, List.length_singleton]
      omega
    · omega

end

/-- **The next appointment settles its probe, and then one more probe is sent or refused, or the
user is told to wait, or the end has come.** -/
theorem Underway.step (hu : Underway s c fs done l sim) :
    ∃ a sim', (∃ e, Refused s c fs (done ++ [a]) sim'.world e ∧
        Step (s.carrier c.timeout room) sim (c.entries (done.length + 1) a) (some e) sim') ∨
      (∃ gs l', Underway s c (fs ++ gs) (done ++ [a]) l' sim' ∧
        Step (s.carrier c.timeout room) sim (c.entries (done.length + 1) a) none sim') ∨
      Completed s c fs (done ++ [a]) ∧ Closing (done ++ [a]) sim' ∧
        Step (s.carrier c.timeout room) sim (c.entries (done.length + 1) a ++
          [(lastDue (done ++ [a]), .outward (.allProbesSent (c.tally (done ++ [a]))))]) none
          sim' := by
  obtain ⟨a, f, w, l', h⟩ := hu.settling
  refine ⟨a, ?_⟩
  by_cases hr : c.count.toNat - c.window < l'.settled
  · rcases Nat.lt_or_eq_of_le h.reopened.le_count with hlt | heq
    · obtain ⟨sim', hu', hstep⟩ := h.wait hu hr hlt
      exact ⟨sim', .inr (.inl ⟨[], l', by rwa [List.append_nil], hstep⟩)⟩
    · obtain ⟨hend, sim', hclosing, hstep⟩ := h.finish hu heq
      exact ⟨sim', .inr (.inr ⟨hend, hclosing, hstep⟩)⟩
  · rcases h.refill hu (Nat.not_lt.1 hr) with ⟨e, sim', hend, hstep⟩ | ⟨g, sim', hu', hstep⟩
    · exact ⟨sim', .inl ⟨e, hend, hstep⟩⟩
    · exact ⟨sim', .inr (.inl ⟨[g], _, hu', hstep⟩)⟩

/-! ### The start -/

section

variable {gs : List Flight} {w : World}

theorem punctual_of_first (hb : w.Booked s c.timeout gs [])
    (hat : ∀ (j : Nat) (g : Flight), gs[j]? = some g → g.sentAt.nanos =
      World.start.clock.nanos + (Measurement.copy c.echoSkeleton (1 + j)).delay.offset.nanos)
    (hgs : gs.length ≤ c.window) : Punctual s c gs := by
  intro k f hf
  have hk := (List.getElem?_eq_some_iff.1 hf).1
  rw [(hb.scripted k f hf).sentAt_eq (hat k f hf), Nat.add_comm 1 k,
    s.sendingTime_of_lt c (Nat.lt_of_lt_of_le hk hgs)]
  exact Nat.zero_add _

theorem underway_of_first (hpos : 0 < c.count.toNat) (hb : w.Booked s c.timeout gs [])
    (hahead : w.agenda.toList.Perm (gs.map Flight.appointment)) (hp : Punctual s c gs)
    (hgs : gs.length = c.window) :
    Underway s c gs [] (Ledger.empty.recordAll (gs.map Flight.sent)) ⟨⟨c, c.echoSkeleton, none,
      c.window, .running (Ledger.empty.recordAll (gs.map Flight.sent))⟩, w, []⟩ := by
  obtain ⟨hfull, hlt⟩ :=
    Measurement.full_recordAll_empty hpos ((List.length_map Flight.sent).trans hgs)
  refine ⟨⟨rfl, rfl, rfl⟩, rfl, rfl, rfl, hb, ?_, hfull, hlt, hp⟩
  refine Ledger.shows_empty.send hahead ?_
  intro g hg
  obtain ⟨k, hk⟩ := List.mem_iff_getElem?.1 hg
  exact (hb.scripted k g hk).sent?_event

end

/-- The simulation starts with a full window, or is refused a probe of the first burst. -/
theorem start_cases (s : Scenario) {c : Config} (hv : c.validate = .ok ())
    (hroom : room c.count.toNat = true) :
    ∃ sim', (∃ gs e, Refused s c gs [] sim'.world e ∧ Step (s.carrier c.timeout room)
        (.ofMeasurement (.new c c.echoSkeleton none)) [(.zero, .start)] (some e) sim') ∨
      ∃ gs l, Underway s c gs [] l sim' ∧ Step (s.carrier c.timeout room)
        (.ofMeasurement (.new c c.echoSkeleton none)) [(.zero, .start)] none sim' := by
  have hpos := Config.count_pos_of_validate hv
  have hnext : next? (.ofMeasurement (.new c c.echoSkeleton none)) =
      some (.start, ⟨.new c c.echoSkeleton none, .start, []⟩) := rfl
  have hturn := Measurement.handle_start_new (s.carrier c.timeout room) hv hroom c.echoSkeleton
    none World.start
  rw [Measurement.schedule_empty rfl rfl hpos] at hturn
  change Measurement.handle _ _ _ _ = Measurement.conclude _ _
    (Measurement.sendFrom (s.carrier c.timeout room) c.echoSkeleton 1 c.window .empty _) at hturn
  have hb₀ := World.booked_start s c.timeout
  obtain ⟨gs, w, hb, hclock, hat, hcases⟩ := hb₀.burst c.echoSkeleton 1 c.window .empty
  have hahead := hb₀.perm_ahead hb
  rw [List.nil_append] at hb
  have hnone : (Measurement.submissions c.echoSkeleton 1 (gs.map Flight.sent)).filterMap
      Action.forUser? = [] := Measurement.filterMap_submissions (fun _ _ => rfl) ..
  have hzero : World.start.clock = .zero := rfl
  rcases hcases with ⟨hgs, hsend⟩ | ⟨hgs, e, he, hsend⟩
  · rw [hsend] at hturn
    have hus : (Action.throwEvent none .start ::
        Measurement.submissions c.echoSkeleton 1 (gs.map Flight.sent)).filterMap
        Action.forUser? = [.start] := congrArg (Event.start :: ·) hnone
    have hes : (Action.throwEvent none .start ::
        Measurement.submissions c.echoSkeleton 1 (gs.map Flight.sent)).filterMap
        Action.forInstance? = [] := by
      rw [List.filterMap_cons_none rfl, Measurement.filterMap_submissions fun _ _ => rfl]
    have hstep := step_of_next? hnext hturn hus hes
    rw [hclock, hzero] at hstep
    have hp := punctual_of_first hb hat (Nat.le_of_eq hgs)
    exact ⟨_, .inr ⟨gs, _, underway_of_first hpos hb hahead hp hgs, hstep⟩⟩
  · rw [hsend] at hturn
    have hp := punctual_of_first hb hat (Nat.le_of_lt hgs)
    have he' := he.unbounded
    rw [List.nil_append, hzero, show Duration.zero.nanos = 0 from rfl, Nat.zero_add,
      Nat.add_comm 1 gs.length, ← s.sendingTime_of_lt c hgs] at he'
    have hus : ((Action.throwEvent none .start ::
        (Measurement.submissions c.echoSkeleton 1 (gs.map Flight.sent) ++
          [Action.submit (Measurement.copy c.echoSkeleton (1 + gs.length)) none])) ++
        [Action.raiseError]).filterMap Action.forUser? = [.start] := by
      rw [List.filterMap_append, List.filterMap_cons, List.filterMap_append, hnone]
      rfl
    have hstep := step_of_next? hnext hturn hus rfl
    rw [hclock, hzero] at hstep
    refine ⟨_, .inl ⟨gs, e, ⟨hb, hp, ?_, Nat.lt_of_lt_of_le hgs c.window_le_count, he'⟩, hstep⟩⟩
    rw [List.length_nil]
    omega

theorem step_of_crowded (s : Scenario) {c : Config} (hv : c.validate = .ok ())
    (hroom : room c.count.toNat = false) :
    ∃ sim', sim'.world.clock = .zero ∧ Step (s.carrier c.timeout room)
      (.ofMeasurement (.new c c.echoSkeleton none)) [] (some .allocationFailure) sim' := by
  have hturn : (Measurement.new c c.echoSkeleton none).handle (s.carrier c.timeout room) .start
      World.start = Measurement.fail (.new c c.echoSkeleton none) .start [] .allocationFailure := by
    show (Measurement.new c c.echoSkeleton none).start _ _ = _
    simp only [Measurement.start, Measurement.new, Scenario.carrier, hv, hroom]
  exact ⟨_, rfl, step_of_next? rfl hturn (show _ = [] from rfl) rfl⟩

end Simulation

end EchoProbe
