import EchoProbe.Proofs.Plan
import EchoProbe.Proofs.Window

/-!
# Flights through a scripted network

A probe that the network accepts has a time of sending and an appointment at which it is settled;
together they are its `Flight`. The clock goes through the appointments in order.

* `Flight.Scripted` says that a flight is as the script wants it, and `Scenario.submit_cases` that
  a probe that is accepted has such a flight;
* `Scenario.Refusal` gives the causes for which a probe is refused;
* `World.Booked` is what is always true of the network and the clock: the appointments of all
  flights lie in one strict order, those that are past before the others.
-/

namespace EchoProbe

/-! ### Appointments -/

namespace Appointment

/-- The number of the probe that the appointment is about. -/
def number (a : Appointment) : Nat := a.event.sent?.elim 0 SentProbe.id

/-- The slot that the appointment takes. -/
def slot (a : Appointment) : Slot := ⟨a.due.nanos, a.number⟩

/-- The one is due earlier than the other, or at the same time, but its probe was sent earlier. -/
def Before (a b : Appointment) : Prop := a.slot.Before b.slot

theorem Before.le {a b : Appointment} (h : a.Before b) : a.due.nanos ≤ b.due.nanos :=
  Slot.Before.le h

end Appointment

/-- The time of the last of some appointments, or the start. -/
def lastDue (as : List Appointment) : Duration := (as.getLast?.map Appointment.due).getD .zero

@[simp] theorem lastDue_concat (as : List Appointment) (a : Appointment) :
    lastDue (as ++ [a]) = a.due := by
  rw [lastDue, List.getLast?_concat]
  rfl

theorem Agenda.next?_of_toList {t : Agenda} {a : Appointment} {as : List Appointment}
    (h : t.toList = a :: as) : ∃ t', t.next? = some (a, t') ∧ t'.toList = as := by
  obtain ⟨bs, hs⟩ := t
  subst h
  exact ⟨⟨as, (List.pairwise_cons.1 hs).2⟩, rfl, rfl⟩

theorem perm_insertAppointment (a : Appointment) (as : List Appointment) :
    (insertAppointment a as).Perm (a :: as) := by
  induction as with
  | nil => exact .refl _
  | cons b rest ih =>
    rw [insertAppointment]
    split
    · exact (ih.cons b).trans (.swap a b rest)
    · exact .refl _

theorem map_slot_insertAppointment (a : Appointment) (as : List Appointment) :
    (insertAppointment a as).map Appointment.slot =
      Slot.insert a.slot (as.map Appointment.slot) := by
  induction as with
  | nil => rfl
  | cons b rest ih =>
    by_cases hle : b.due ≤ a.due
    · have hle' : b.slot.time ≤ a.slot.time := hle
      rw [insertAppointment, if_pos hle, List.map_cons, List.map_cons, Slot.insert, if_pos hle', ih]
    · have hle' : ¬b.slot.time ≤ a.slot.time := hle
      rw [insertAppointment, if_neg hle, List.map_cons, List.map_cons, Slot.insert, if_neg hle']

theorem pairwise_before_insertAppointment {a : Appointment} {as : List Appointment}
    (h : as.Pairwise Appointment.Before) (hn : ∀ b ∈ as, b.number < a.number) :
    (insertAppointment a as).Pairwise Appointment.Before := by
  have hslots : ((insertAppointment a as).map Appointment.slot).Pairwise Slot.Before := by
    rw [map_slot_insertAppointment]
    refine Slot.pairwise_insert (List.pairwise_map.2 h) ?_
    intro x hx
    obtain ⟨b, hb, rfl⟩ := List.mem_map.1 hx
    exact hn b hb
  rw [List.pairwise_map] at hslots
  exact hslots

/-! ### The script -/

namespace Scenario

variable {s : Scenario} {timeout : Duration}

/-- The event that settles a probe: `received` is the time at which an answer comes. -/
def settlement (s : Scenario) (timeout : Duration) (received : Instant) (p : SentProbe) : Event :=
  match s.answer? timeout p.id with
  | some (_, reply) => .reply ⟨p, reply.setReceived received⟩
  | none => .timeout p

theorem sent?_settlement (received : Instant) (p : SentProbe) :
    (s.settlement timeout received p).sent? = some p := by
  unfold settlement
  split <;> rfl

theorem appointment?_of_answer {sentAt roundTrip : Duration} {p : SentProbe} {reply : Probe}
    (h : s.answer? timeout p.id = some (roundTrip, reply)) :
    s.appointment? timeout sentAt p = do
      let due ← sentAt.add? roundTrip
      let received ← Instant.after? due
      return ⟨due, .reply ⟨p, reply.setReceived received⟩⟩ := by
  unfold answer? at h
  unfold appointment? Scenario.fate
  cases hr : s.response p.id with
  | silence => rw [hr] at h; cases h
  | echo ms =>
    rw [hr] at h
    dsimp only at h
    split at h
    · rename_i hlt
      cases h
      simp only [Response.fate, if_pos hlt]
    · cases h
  | icmp m =>
    rw [hr] at h
    dsimp only at h
    split at h
    · rename_i hlt
      cases h
      simp only [Response.fate, if_pos hlt]
    · cases h

theorem appointment?_of_no_answer {sentAt : Duration} {p : SentProbe}
    (h : s.answer? timeout p.id = none) :
    s.appointment? timeout sentAt p = (sentAt.add? timeout).map (⟨·, .timeout p⟩) := by
  unfold answer? at h
  unfold appointment? Scenario.fate
  cases hr : s.response p.id with
  | silence => rfl
  | echo ms =>
    rw [hr] at h
    have hlt : ¬Duration.ofMillis ms < timeout := fun hlt => by simp [hlt] at h
    simp only [Response.fate, if_neg hlt]
  | icmp m =>
    rw [hr] at h
    have hlt : ¬Duration.ofMillis m.roundTripMs < timeout := fun hlt => by simp [hlt] at h
    simp only [Response.fate, if_neg hlt]

/-- A probe is settled after the time that the script sets, and as the script has it. -/
theorem appointment?_eq_some {sentAt : Duration} {p : SentProbe} {a : Appointment}
    (h : s.appointment? timeout sentAt p = some a) :
    a.due.nanos = sentAt.nanos + (s.patience timeout p.id).nanos ∧
      ∃ received, a.event = s.settlement timeout received p ∧
        ((s.answer? timeout p.id).isSome = true → Instant.after? a.due = some received) := by
  cases hs : s.answer? timeout p.id with
  | some x =>
    obtain ⟨roundTrip, reply⟩ := x
    rw [appointment?_of_answer hs] at h
    obtain ⟨due, hdue, h⟩ := Option.bind_eq_some_iff.1 h
    obtain ⟨received, hrec, h⟩ := Option.bind_eq_some_iff.1 h
    obtain rfl := Option.some.inj h
    rw [patience, hs]
    exact ⟨Duration.add?_eq_some_iff.1 hdue, received, by rw [settlement, hs], fun _ => hrec⟩
  | none =>
    rw [appointment?_of_no_answer hs] at h
    obtain ⟨due, hdue, rfl⟩ := Option.map_eq_some_iff.1 h
    rw [patience, hs]
    exact ⟨Duration.add?_eq_some_iff.1 hdue, .epoch, by rw [settlement, hs], fun h => by cases h⟩

theorem exists_appointment?_of_fits {sentAt : Duration} {p : SentProbe}
    (h : s.Fits timeout p.id sentAt.nanos) : ∃ a, s.appointment? timeout sentAt p = some a := by
  obtain ⟨-, hdue⟩ := h
  cases hs : s.answer? timeout p.id with
  | some x =>
    obtain ⟨roundTrip, reply⟩ := x
    rw [hs, if_pos (by rfl), patience, hs] at hdue
    dsimp only at hdue
    obtain ⟨due, hadd⟩ := Duration.exists_add? (a := sentAt) (b := roundTrip) (by omega)
    rw [← Duration.add?_eq_some_iff.1 hadd] at hdue
    obtain ⟨received, hrec⟩ := Instant.exists_after? hdue
    refine ⟨⟨due, .reply ⟨p, reply.setReceived received⟩⟩, ?_⟩
    rw [appointment?_of_answer hs]
    exact Option.bind_eq_some_iff.2
      ⟨due, hadd, Option.bind_eq_some_iff.2 ⟨received, hrec, rfl⟩⟩
  | none =>
    rw [hs, if_neg (by simp), patience, hs] at hdue
    obtain ⟨due, hadd⟩ := Duration.exists_add? hdue
    exact ⟨⟨due, .timeout p⟩, by rw [appointment?_of_no_answer hs, hadd]; rfl⟩

theorem exists_sendingTime? {w : World} {p : Probe}
    (h : w.clock.nanos + p.delay.offset.nanos < 2 ^ 63 * 10 ^ 9) :
    ∃ x, sendingTime? w p = some x := by
  obtain ⟨sentAt, hadd⟩ :=
    Duration.exists_add? (a := w.clock) (b := p.delay.offset) (by omega)
  rw [← Duration.add?_eq_some_iff.1 hadd] at h
  obtain ⟨stamp, hstamp⟩ := Instant.exists_after? h
  exact ⟨(sentAt, stamp), Option.bind_eq_some_iff.2
    ⟨sentAt, hadd, Option.bind_eq_some_iff.2 ⟨stamp, hstamp, rfl⟩⟩⟩

end Scenario

/-! ### Flights -/

/-- A probe that was accepted, the time at which it is sent, and its appointment. -/
structure Flight where
  /-- The probe. -/
  sent : SentProbe
  /-- The time of sending, from the start. -/
  sentAt : Duration
  /-- When and how the probe is settled. -/
  appointment : Appointment

/-- The flight is that of the `k`-th probe, as the script has it. -/
structure Flight.Scripted (s : Scenario) (timeout : Duration) (k : Nat) (f : Flight) : Prop where
  id : f.sent.id = k
  /-- The script lets the probe pass. -/
  allowed : s.sendFailure.map UInt64.toNat ≠ some k
  /-- The probe is stamped with the time at which it is sent. -/
  stamp : ∃ t, Instant.after? f.sentAt = some t ∧ f.sent.probe.sent = some t
  appointment : s.appointment? timeout f.sentAt f.sent = some f.appointment

namespace Flight.Scripted

variable {s : Scenario} {timeout : Duration} {k : Nat} {f : Flight}

theorem due (h : f.Scripted s timeout k) :
    f.appointment.due.nanos = f.sentAt.nanos + (s.patience timeout k).nanos := by
  rw [← h.id]
  exact (Scenario.appointment?_eq_some h.appointment).1

theorem sentAt_le_due (h : f.Scripted s timeout k) :
    f.sentAt.nanos ≤ f.appointment.due.nanos := by
  rw [h.due]
  exact Nat.le_add_right _ _

theorem sent?_event (h : f.Scripted s timeout k) : f.appointment.event.sent? = some f.sent := by
  obtain ⟨received, he, -⟩ := (Scenario.appointment?_eq_some h.appointment).2
  rw [he]
  exact Scenario.sent?_settlement received f.sent

theorem number (h : f.Scripted s timeout k) : f.appointment.number = k := by
  rw [Appointment.number, h.sent?_event]
  exact h.id

end Flight.Scripted

theorem forall_getElem?_concat {α : Type} {P : Nat → α → Prop} {xs : List α} {y : α}
    (h : ∀ k x, xs[k]? = some x → P k x) (hy : P xs.length y) :
    ∀ k x, (xs ++ [y])[k]? = some x → P k x := by
  intro k x hx
  rcases Nat.lt_trichotomy k xs.length with hk | rfl | hk
  · rw [List.getElem?_append_left hk] at hx
    exact h k x hx
  · rw [List.getElem?_concat_length] at hx
    cases hx
    exact hy
  · rw [List.getElem?_eq_none (by rw [List.length_append, List.length_singleton]; omega)] at hx
    cases hx

theorem map_number_flights {s : Scenario} {timeout : Duration} {fs : List Flight}
    (h : ∀ (k : Nat) (f : Flight), fs[k]? = some f → f.Scripted s timeout k) :
    (fs.map Flight.appointment).map Appointment.number = List.range fs.length := by
  refine List.ext_getElem (by simp) ?_
  intro k hk _
  rw [List.getElem_map, List.getElem_map, List.getElem_range]
  have hk' : k < fs.length := by simpa using hk
  exact (h k fs[k] (List.getElem?_eq_getElem hk')).number

/-- What the script has for a probe: its answer after the time that the script sets, or its
timeout. -/
theorem Flight.Scripted.event_cases {s : Scenario} {timeout : Duration} {k : Nat} {f : Flight}
    (h : f.Scripted s timeout k) :
    (∃ roundTrip reply x t, s.answer? timeout k = some (roundTrip, reply) ∧
      f.appointment.event = .reply x ∧ x.sent = f.sent ∧ x.reply = reply.setReceived t ∧
      x.roundTrip? = some roundTrip) ∨
    s.answer? timeout k = none ∧ f.appointment.event = .timeout f.sent := by
  obtain ⟨received, he, hrec⟩ := (Scenario.appointment?_eq_some h.appointment).2
  have hdue := h.due
  rw [Scenario.settlement, h.id] at he
  rw [Scenario.patience] at hdue
  rw [h.id] at hrec
  cases ha : s.answer? timeout k with
  | none =>
    rw [ha] at he
    exact .inr ⟨rfl, he⟩
  | some y =>
    obtain ⟨roundTrip, reply⟩ := y
    rw [ha] at he hrec hdue
    dsimp only at hdue
    refine .inl ⟨roundTrip, reply, ⟨f.sent, reply.setReceived received⟩, received, rfl, he, rfl,
      rfl, ?_⟩
    obtain ⟨t, ht, hsent⟩ := h.stamp
    obtain ⟨hr, -⟩ := Instant.lt_of_after? (hrec rfl)
    obtain ⟨hs, -⟩ := Instant.lt_of_after? ht
    -- the reply comes as much later than the probe was sent as the script says
    have hle : t.nanos ≤ received.nanos := by omega
    have hdiff : (received.nanos - t.nanos).toNat = roundTrip.nanos := by omega
    show (f.sent.probe.sent.bind fun u => (some received).bind fun v => v.since? u) = _
    rw [hsent]
    simp only [Option.bind_some, Instant.since?, if_pos hle]
    exact congrArg some (Duration.ext hdiff)

/-- What keeps the network from accepting the `k`-th probe at the time `t`: the clock that cannot
hold its times, or the script. -/
def Scenario.Refusal (s : Scenario) (timeout : Duration) (k t : Nat) (e : Error) : Prop :=
  e = .clockOverflow ∧ ¬s.Fits timeout k t ∨
    s.sendFailure.map UInt64.toNat = some k ∧ ∃ reason, e = .sendFailure reason

/-- **A probe is accepted with a scripted flight, or refused for a cause.** A refusal changes
nothing. -/
theorem Scenario.submit_cases (s : Scenario) (timeout : Duration) (w : World) (p : Probe) :
    (∃ f : Flight, f.Scripted s timeout w.accepted ∧
      f.sentAt.nanos = w.clock.nanos + p.delay.offset.nanos ∧
      s.submit timeout w p = (.ok f.sent, { w with
        accepted := w.accepted + 1
        agenda := w.agenda.arm f.appointment.due f.appointment.event })) ∨
    ∃ e, s.Refusal timeout w.accepted (w.clock.nanos + p.delay.offset.nanos) e ∧
      s.submit timeout w p = (.error e, w) := by
  unfold submit
  split
  · rename_i hnone
    refine .inr ⟨_, .inl ⟨rfl, ?_⟩, rfl⟩
    intro hfits
    obtain ⟨x, hx⟩ := exists_sendingTime? hfits.1
    rw [hnone] at hx
    cases hx
  · rename_i sentAt stamp ht
    obtain ⟨t, hadd, ht⟩ := Option.bind_eq_some_iff.1 ht
    obtain ⟨stamp', hstamp, ht⟩ := Option.bind_eq_some_iff.1 ht
    cases ht
    split
    · rename_i hf
      exact .inr ⟨_, .inr ⟨hf, _, rfl⟩, rfl⟩
    · rename_i hallowed
      dsimp only
      split
      · rename_i hnone
        refine .inr ⟨_, .inl ⟨rfl, ?_⟩, rfl⟩
        intro hfits
        rw [← Duration.add?_eq_some_iff.1 hadd] at hfits
        obtain ⟨a, ha⟩ :=
          exists_appointment?_of_fits (p := ⟨w.accepted, p.setSent stamp⟩) hfits
        rw [hnone] at ha
        cases ha
      · rename_i a ha
        refine .inl ⟨⟨⟨w.accepted, p.setSent stamp⟩, sentAt, a⟩,
          ⟨rfl, hallowed, ⟨stamp, hstamp, rfl⟩, ha⟩, Duration.add?_eq_some_iff.1 hadd, rfl⟩

/-! ### The network and the clock -/

namespace World

/-- The flights `fs` are all those accepted so far; the appointments `done` are past, in order, and
the others lie ahead. -/
structure Booked (s : Scenario) (timeout : Duration) (fs : List Flight) (done : List Appointment)
    (w : World) : Prop where
  accepted : w.accepted = fs.length
  scripted : ∀ (k : Nat) (f : Flight), fs[k]? = some f → f.Scripted s timeout k
  perm : (done ++ w.agenda.toList).Perm (fs.map Flight.appointment)
  ordered : (done ++ w.agenda.toList).Pairwise Appointment.Before
  /-- The clock shows the time of the last past appointment. -/
  clock : w.clock = lastDue done
  past : ∀ a ∈ done, a.due.nanos ≤ w.clock.nanos
  ahead : ∀ a ∈ w.agenda.toList, w.clock.nanos ≤ a.due.nanos

variable {s : Scenario} {timeout : Duration} {room : Room} {fs : List Flight}
  {done : List Appointment} {w : World}

theorem booked_start (s : Scenario) (timeout : Duration) : start.Booked s timeout [] [] where
  accepted := rfl
  scripted _ _ h := by cases h
  perm := .refl _
  ordered := .nil
  clock := rfl
  past _ h := by cases h
  ahead _ h := by cases h

theorem Booked.exists_flight (hw : w.Booked s timeout fs done) {a : Appointment}
    (ha : a ∈ done ++ w.agenda.toList) :
    ∃ (k : Nat) (f : Flight), fs[k]? = some f ∧ f.appointment = a ∧ f.Scripted s timeout k := by
  obtain ⟨f, hf, rfl⟩ := List.mem_map.1 (hw.perm.mem_iff.1 ha)
  obtain ⟨k, hk⟩ := List.mem_iff_getElem?.1 hf
  exact ⟨k, f, hk, rfl, hw.scripted k f hk⟩

theorem Booked.number_lt (hw : w.Booked s timeout fs done) {a : Appointment}
    (ha : a ∈ done ++ w.agenda.toList) : a.number < fs.length := by
  obtain ⟨k, f, hk, rfl, hf⟩ := hw.exists_flight ha
  rw [hf.number]
  exact (List.getElem?_eq_some_iff.1 hk).1

/-- A flight that is sent now or later is booked among those ahead. -/
theorem Booked.book (hw : w.Booked s timeout fs done) {f : Flight}
    (hf : f.Scripted s timeout w.accepted) (hle : w.clock.nanos ≤ f.sentAt.nanos) :
    Booked s timeout (fs ++ [f]) done { w with
      accepted := w.accepted + 1
      agenda := w.agenda.arm f.appointment.due f.appointment.event } := by
  -- the new appointment lies ahead, and its number is the highest
  have hdue : w.clock.nanos ≤ f.appointment.due.nanos := Nat.le_trans hle hf.sentAt_le_due
  have hnum : ∀ b ∈ done ++ w.agenda.toList, b.number < f.appointment.number := by
    intro b hb
    rw [hf.number, hw.accepted]
    exact hw.number_lt hb
  have harm : (w.agenda.arm f.appointment.due f.appointment.event).toList =
      insertAppointment f.appointment w.agenda.toList := rfl
  obtain ⟨hdone, hahead, hcross⟩ := List.pairwise_append.1 hw.ordered
  refine ⟨?_, forall_getElem?_concat hw.scripted (hw.accepted ▸ hf), ?_, ?_, hw.clock, hw.past, ?_⟩
  · rw [List.length_append, hw.accepted]
    rfl
  · rw [harm, List.map_append]
    refine ((perm_insertAppointment _ _).append_left done).trans ?_
    exact List.perm_middle.trans ((hw.perm.cons _).trans (List.perm_append_singleton _ _).symm)
  · rw [harm]
    refine List.pairwise_append.2 ⟨hdone, ?_, ?_⟩
    · refine pairwise_before_insertAppointment hahead fun b hb => hnum b ?_
      exact List.mem_append_right _ hb
    · intro a ha b hb
      rcases mem_insertAppointment.1 hb with rfl | hb
      · refine Slot.before_of_le (Nat.le_trans (hw.past a ha) hdue) (hnum a ?_)
        exact List.mem_append_left _ ha
      · exact hcross a ha b hb
  · intro a ha
    rcases mem_insertAppointment.1 ha with rfl | ha
    · exact hdue
    · exact hw.ahead a ha

theorem Booked.advance {a : Appointment} {agenda : Agenda} (hw : w.Booked s timeout fs done)
    (ha : w.agenda.toList = a :: agenda.toList) :
    Booked s timeout fs (done ++ [a]) { w with clock := a.due, agenda } := by
  have hsplit : done ++ w.agenda.toList = done ++ [a] ++ agenda.toList := by
    rw [ha, List.append_assoc]
    rfl
  have hperm := hw.perm
  have hord := hw.ordered
  rw [hsplit] at hperm hord
  -- all that is past comes before `a`, and all that lies ahead after it
  obtain ⟨hdone, -, hcross⟩ := List.pairwise_append.1 hord
  refine ⟨hw.accepted, hw.scripted, hperm, hord, (lastDue_concat done a).symm, ?_, ?_⟩
  · intro b hb
    rcases List.mem_append.1 hb with hb | hb
    · exact ((List.pairwise_append.1 hdone).2.2 b hb a List.mem_cons_self).le
    · exact Nat.le_of_eq (by rw [List.mem_singleton.1 hb])
  · intro b hb
    exact (hcross a (List.mem_append_right _ List.mem_cons_self) b hb).le

theorem Booked.accepts {skeleton : Probe} {i : Nat} {ps : List SentProbe} {w' : World}
    (ha : Measurement.Accepts (s.carrier timeout room) skeleton i w ps w')
    (hw : w.Booked s timeout fs done) :
    ∃ gs : List Flight, gs.map Flight.sent = ps ∧ w'.Booked s timeout (fs ++ gs) done ∧
      w'.clock = w.clock ∧ ∀ (j : Nat) (g : Flight), gs[j]? = some g →
        g.sentAt.nanos =
          w.clock.nanos + (Measurement.copy skeleton (i + j)).delay.offset.nanos := by
  induction ha generalizing fs with
  | nil i w => exact ⟨[], rfl, by rwa [List.append_nil], rfl, fun j g h => by simp at h⟩
  | @cons i w w₁ w₂ p ps hsub _ ih =>
    rcases s.submit_cases timeout w (Measurement.copy skeleton i) with
      ⟨f, hf, hat, h⟩ | ⟨e, -, h⟩
    · change s.submit timeout w (Measurement.copy skeleton i) = _ at hsub
      rw [h] at hsub
      cases hsub
      have hle : w.clock.nanos ≤ f.sentAt.nanos := by
        rw [hat]
        exact Nat.le_add_right _ _
      obtain ⟨gs, hgs, hb, hclock, hsent⟩ := ih (hw.book hf hle)
      refine ⟨f :: gs, congrArg (f.sent :: ·) hgs, ?_, hclock, ?_⟩
      · rwa [← List.append_cons] at hb
      · intro j g hg
        cases j with
        | zero =>
          cases hg
          exact hat
        | succ j =>
          rw [hsent j g hg, Nat.add_right_comm]
          rfl
    · change s.submit timeout w (Measurement.copy skeleton i) = _ at hsub
      rw [h] at hsub
      cases hsub

/-- **A burst is booked as a whole, or all up to a probe that is refused.** -/
theorem Booked.burst (hw : w.Booked s timeout fs done) (skeleton : Probe) (i n : Nat)
    (l : Ledger) :
    ∃ (gs : List Flight) (w' : World), w'.Booked s timeout (fs ++ gs) done ∧ w'.clock = w.clock ∧
      (∀ (j : Nat) (g : Flight), gs[j]? = some g → g.sentAt.nanos =
        w.clock.nanos + (Measurement.copy skeleton (i + j)).delay.offset.nanos) ∧
      ((gs.length = n ∧ Measurement.sendFrom (s.carrier timeout room) skeleton i n l w =
        ⟨.running (l.recordAll (gs.map Flight.sent)), w',
          Measurement.submissions skeleton i (gs.map Flight.sent), none⟩) ∨
      (gs.length < n ∧ ∃ e, s.Refusal timeout (fs ++ gs).length
          (w.clock.nanos + (Measurement.copy skeleton (i + gs.length)).delay.offset.nanos) e ∧
        Measurement.sendFrom (s.carrier timeout room) skeleton i n l w =
          ⟨.running (l.recordAll (gs.map Flight.sent)), w',
            Measurement.submissions skeleton i (gs.map Flight.sent) ++
              [.submit (Measurement.copy skeleton (i + gs.length)) none], some e⟩)) := by
  obtain ⟨ps, w₁, ha, ⟨hn, h⟩ | ⟨hn, e, w₂, hr, h⟩⟩ :=
    Measurement.sendFrom_cases (s.carrier timeout room) skeleton i n l w
  · obtain ⟨gs, rfl, hb, hclock, hsent⟩ := hw.accepts ha
    rw [List.length_map] at hn
    exact ⟨gs, w₁, hb, hclock, hsent, .inl ⟨hn, h⟩⟩
  · obtain ⟨gs, rfl, hb, hclock, hsent⟩ := hw.accepts ha
    rw [List.length_map] at hn hr h
    refine ⟨gs, w₁, hb, hclock, hsent, .inr ⟨hn, e, ?_⟩⟩
    rw [← hb.accepted, ← hclock]
    -- a refusal leaves the network as it was
    rcases s.submit_cases timeout w₁ (Measurement.copy skeleton (i + gs.length)) with
      ⟨f, -, -, h'⟩ | ⟨e', he', h'⟩
    · cases hr.symm.trans h'
    · cases hr.symm.trans h'
      exact ⟨he', h⟩

end World

/-! ### Distances -/

theorem offset_copy_echoSkeleton (c : Config) (i : Nat) :
    (Measurement.copy c.echoSkeleton i).delay.offset.nanos =
      min (min i (2 ^ 32 - 1) * c.interval.nanos) (2 ^ 64 * 10 ^ 9 - 1) := by
  show (Delay.scale (min i (2 ^ 32 - 1)) c.echoSkeleton.delay).offset.nanos = _
  unfold Config.echoSkeleton
  dsimp only
  by_cases hz : c.interval.nanos = 0
  · rw [if_pos hz, hz, Nat.mul_zero]
    exact (Nat.zero_min _).symm
  · rw [if_neg hz, Nat.mul_comm]
    rfl

/-- A time that the clock can hold is a whole multiple of the interval from now. -/
theorem nanos_copy_of_lt {c : Config} {i t : Nat}
    (h : t + (Measurement.copy c.echoSkeleton i).delay.offset.nanos < 2 ^ 63 * 10 ^ 9) :
    t + (Measurement.copy c.echoSkeleton i).delay.offset.nanos =
      t + min i (2 ^ 32 - 1) * c.interval.nanos := by
  rw [offset_copy_echoSkeleton] at h ⊢
  generalize min i (2 ^ 32 - 1) * c.interval.nanos = x at h ⊢
  omega

theorem Flight.Scripted.sentAt_eq {s : Scenario} {timeout clock : Duration} {k i : Nat}
    {f : Flight} {c : Config} (hf : f.Scripted s timeout k)
    (h : f.sentAt.nanos =
      clock.nanos + (Measurement.copy c.echoSkeleton i).delay.offset.nanos) :
    f.sentAt.nanos = clock.nanos + min i (2 ^ 32 - 1) * c.interval.nanos := by
  obtain ⟨t, ht, -⟩ := hf.stamp
  have hlt := (Instant.lt_of_after? ht).2
  rw [h] at hlt ⊢
  exact nanos_copy_of_lt hlt

theorem Scenario.Refusal.unbounded {s : Scenario} {timeout : Duration} {c : Config}
    {k i t : Nat} {e : Error}
    (h : s.Refusal timeout k (t + (Measurement.copy c.echoSkeleton i).delay.offset.nanos) e) :
    s.Refusal timeout k (t + min i (2 ^ 32 - 1) * c.interval.nanos) e := by
  rcases h with ⟨he, hfits⟩ | hscript
  · refine .inl ⟨he, ?_⟩
    intro hfits'
    have hle : t + (Measurement.copy c.echoSkeleton i).delay.offset.nanos ≤
        t + min i (2 ^ 32 - 1) * c.interval.nanos := by
      rw [offset_copy_echoSkeleton]
      exact Nat.add_le_add_left (Nat.min_le_left _ _) t
    rw [← nanos_copy_of_lt (Nat.lt_of_le_of_lt hle hfits'.1)] at hfits'
    exact hfits hfits'
  · exact .inr hscript

/-! ### Keeping to the plan -/

/-- The flights keep to the plan. -/
def Punctual (s : Scenario) (c : Config) (fs : List Flight) : Prop :=
  ∀ (k : Nat) (f : Flight), fs[k]? = some f → f.sentAt.nanos = s.sendingTime c k

/-- **The appointments of flights that keep to the plan take the slots of the plan**, in order. -/
theorem map_slot_eq_plan {s : Scenario} {c : Config} {fs : List Flight} {as : List Appointment}
    (hfs : ∀ (k : Nat) (f : Flight), fs[k]? = some f → f.Scripted s c.timeout k)
    (hp : Punctual s c fs) (has : as.Perm (fs.map Flight.appointment))
    (hord : as.Pairwise Appointment.Before) :
    as.map Appointment.slot = s.plan c fs.length := by
  have hslots : (fs.map Flight.appointment).map Appointment.slot =
      (List.range fs.length).map fun k => ⟨s.settlingTime c k, k⟩ := by
    refine List.ext_getElem (by simp) ?_
    intro k hk _
    have hk' : k < fs.length := by simpa using hk
    have hf := List.getElem?_eq_getElem hk'
    rw [List.getElem_map, List.getElem_map, List.getElem_map, List.getElem_range, Appointment.slot,
      (hfs k _ hf).due, (hfs k _ hf).number, hp k _ hf]
    rfl
  have hperm : (as.map Appointment.slot).Perm (s.plan c fs.length) :=
    (has.map _).trans ((List.Perm.of_eq hslots).trans (s.perm_plan c fs.length).symm)
  -- both are in the same strict order
  refine hperm.eq_of_pairwise ?_ (List.pairwise_map.2 hord) (s.pairwise_plan c fs.length)
  intro x y _ _ hxy hyx
  exact (hxy.asymm hyx).elim

end EchoProbe
