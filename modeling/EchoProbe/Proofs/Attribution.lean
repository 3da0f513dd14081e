import EchoProbe.Proofs.Lifecycle

/-!
# Each settlement is told once

A loop may deliver answers and timeouts in any order and any number of times, and for probes that
were never sent. What the caller is told can be read off the history.

* `History.told` is what the caller was told of settled probes, `History.carried` are these probes;
* `Life.arrivals` are the events that come for a probe in flight while the measurement runs, as the
  history has it;
* `Life.settlements_attributed` compares both: each arrival is told once and as it came, no probe is
  told of twice, and at the end all are.
-/

namespace EchoProbe

variable {σ : Type}

/-- What the caller is told of the settlement of a probe. -/
def Action.settlement? : Action → Option Finding
  | raise f => if f.settles then some f else none
  | _ => none

namespace History

/-- What the caller was told of settled probes, in order. -/
def told (h : History) : List Finding := h.actions.filterMap Action.settlement?

/-- The probes that the caller was told of, in order. -/
def carried (h : History) : List SentProbe := h.told.filterMap Finding.sent?

theorem told_cons (x : Moment) (h : History) :
    told (x :: h) = h.told ++ x.actions.filterMap Action.settlement? :=
  List.filterMap_append ..

theorem carried_cons (x : Moment) (h : History) :
    carried (x :: h) =
      h.carried ++ (x.actions.filterMap Action.settlement?).filterMap Finding.sent? := by
  rw [carried, told_cons, List.filterMap_append]
  rfl

end History

namespace Life

/-- The measurement runs, and the event is about a probe that was accepted and is not settled. -/
def expects (x : Life) (e : Event) : Bool :=
  decide (x.measurement.stage = .running) && x.history.inFlight.any e.carries

/-- The events that come for a probe in flight while the measurement runs, in order. -/
def arrivals (carrier : Carrier σ) : Life → List (Delivery σ) → List Event
  | _, [] => []
  | x, d :: ds =>
    (if x.expects d.event then [d.event] else []) ++ arrivals carrier (x.next carrier d) ds

end Life

/-! ### One event -/

namespace Measurement

variable {m : Measurement} {carrier : Carrier σ} {e : Event}

theorem filterMap_settlement?_schedule (m : Measurement) (carrier : Carrier σ) (l : Ledger)
    (s : σ) : (m.schedule carrier l s).actions.filterMap Action.settlement? = [] := by
  have hnone : ∀ p sent, Action.settlement? (.submit p sent) = none := fun _ _ => rfl
  have hc := schedule_choice m carrier l s
  generalize m.schedule carrier l s = p at hc
  cases hc with
  | sent => exact filterMap_submissions hnone ..
  | refused =>
    rw [List.filterMap_append, filterMap_submissions hnone]
    rfl
  | finished => rfl
  | waited => rfl

theorem filterMap_settlement?_conclude (m : Measurement) (as : List Action) (p : Progress σ) :
    (m.conclude as p).actions.filterMap Action.settlement? =
      as.filterMap Action.settlement? ++ p.actions.filterMap Action.settlement? := by
  unfold conclude
  cases p.failure with
  | none => exact List.filterMap_append ..
  | some cause =>
    show ((as ++ p.actions) ++ [Action.raiseError]).filterMap Action.settlement? = _
    rw [List.filterMap_append, List.filterMap_append]
    exact List.append_nil _

theorem settlement?_of_finding? {target : IpAddr} {f : Finding} (h : e.finding? target = some f) :
    Action.settlement? (.raise f) = some f :=
  if_pos (Event.settles_of_finding? h)

/-- An event that settles a probe is told, and then a decision is made. -/
theorem handle_of_awaits (ha : m.awaits e = true) (carrier : Carrier σ) (s : σ) :
    ∃ l f, e.finding? m.config.target = some f ∧
      m.handle carrier e s = m.conclude [.raise f] (m.schedule carrier l s) := by
  unfold awaits at ha
  split at ha
  · rename_i l hp
    obtain ⟨q, hq, hcarries⟩ := List.any_eq_true.1 ha
    cases hc : l.close? m.config.target e with
    | none =>
      rw [Ledger.close?_eq_none_iff.1 hc q hq] at hcarries
      cases hcarries
    | some l' =>
      obtain ⟨p, hsent, -⟩ := Event.carries_iff.1 hcarries
      obtain ⟨f, hf⟩ := Event.exists_finding?_of_sent? (by rw [hsent]; rfl) m.config.target
      exact ⟨l', f, hf, handle_of_close? hp hc hf s⟩
  · cases ha

theorem told_of_not_awaits (ha : m.awaits e = false) (carrier : Carrier σ) (s : σ) :
    (m.handle carrier e s).actions.filterMap Action.settlement? = [] := by
  have hr := handle_reaction m carrier e s
  generalize m.handle carrier e s = turn at hr
  cases hr with
  | finished => rfl
  | invalid => rfl
  | crowded => rfl
  | started =>
    rw [filterMap_settlement?_conclude, filterMap_settlement?_schedule]
    rfl
  | dropped => rfl
  | settled hp hc =>
    obtain ⟨q, hq⟩ := Ledger.closes_of_close? hc
    rw [awaits_of_closes hp hq] at ha
    cases ha
  | late => rfl
  | stopped => rfl
  | aborted => rfl
  | misplaced => rfl

/-- **What the caller is told of a settlement is the event that brought it.** -/
theorem told_handle (m : Measurement) (carrier : Carrier σ) (e : Event) (s : σ) :
    (m.handle carrier e s).actions.filterMap Action.settlement? =
      if m.awaits e then (e.finding? m.config.target).toList else [] := by
  cases ha : m.awaits e with
  | false => exact told_of_not_awaits ha carrier s
  | true =>
    obtain ⟨l, f, hf, h⟩ := handle_of_awaits ha carrier s
    rw [h, filterMap_settlement?_conclude, filterMap_settlement?_schedule, List.append_nil,
      List.filterMap_cons_some (settlement?_of_finding? hf), hf]
    rfl

theorem handle_of_not_awaits (hl : m.ledger?.isSome = true) (he : e.sent?.isSome = true)
    (ha : m.awaits e = false) (carrier : Carrier σ) (s : σ) :
    m.handle carrier e s = m.ignore s := by
  have hr := handle_reaction m carrier e s
  generalize m.handle carrier e s = turn at hr
  cases hr with
  | finished => rfl
  | invalid _ hs => rw [hs] at he; cases he
  | crowded _ hs => rw [hs] at he; cases he
  | started _ hs => rw [hs] at he; cases he
  | dropped => rfl
  | settled hp hc =>
    obtain ⟨q, hq⟩ := Ledger.closes_of_close? hc
    rw [awaits_of_closes hp hq] at ha
    cases ha
  | late => rfl
  | stopped _ hs => rw [hs] at he; cases he
  | aborted _ hs => rw [hs] at he; cases he
  | misplaced hm =>
    rw [stage, Phase.handles_of_sent? hl he] at hm
    cases hm

/-- The probe that an event settles, if it settles one. -/
def settles? (m : Measurement) (e : Event) : Option SentProbe :=
  if m.awaits e then e.sent? else none

theorem carried_handle (m : Measurement) (carrier : Carrier σ) (e : Event) (s : σ) :
    ((m.handle carrier e s).actions.filterMap Action.settlement?).filterMap Finding.sent? =
      (m.settles? e).toList := by
  rw [told_handle, settles?]
  split
  · cases e <;> rfl
  · rfl

theorem settles?_eq_none (ha : m.awaits e = false) : m.settles? e = none := by
  rw [settles?, ha]
  rfl

theorem exists_rest_of_settles? {p : SentProbe} (h : m.settles? e = some p) :
    ∃ l rest, m.ledger? = some l ∧ (l.inFlight.map SentProbe.id).Perm (p.id :: rest) := by
  unfold settles? at h
  split at h
  · rename_i ha
    unfold awaits at ha
    split at ha
    · rename_i l hp
      obtain ⟨q, hq, hcarries⟩ := List.any_eq_true.1 ha
      have hid : p.id = q.id := Event.id_eq_of_carries (Event.carries_iff.2 ⟨p, h, rfl⟩) hcarries
      obtain ⟨as, bs, hl⟩ := List.append_of_mem hq
      refine ⟨l, (as ++ bs).map SentProbe.id, ledger?_of_running hp, ?_⟩
      rw [hl, hid]
      exact (List.perm_middle.map SentProbe.id)
    · cases ha
  · cases h

theorem exists_settles?_of_closes {target : IpAddr} {l l' : Ledger} {q : SentProbe}
    (hp : m.phase = .running l) (hc : l.Closes target e q l') :
    ∃ p, m.settles? e = some p ∧ p.id = q.id := by
  obtain ⟨p, hsent, hid⟩ := Event.carries_iff.1 hc.carries
  exact ⟨p, by rw [settles?, if_pos (awaits_of_closes hp hc), hsent], hid⟩

end Measurement

/-! ### A whole life -/

namespace Life

open Measurement

variable {carrier : Carrier σ} {c : Config} {x : Life}

/-- The caller has been told of accepted probes only, and of those that are not in flight. -/
structure Accounted (x : Life) : Prop where
  /-- Some probes may not have been told of. -/
  any : ∃ rest : List Nat,
    (x.history.carried.map SentProbe.id ++ rest).Perm (x.history.accepted.map SentProbe.id)
  /-- While there is a ledger, these are the ones in flight. -/
  inFlight : ∀ l, x.measurement.ledger? = some l →
    (x.history.carried.map SentProbe.id ++ l.inFlight.map SentProbe.id).Perm
      (x.history.accepted.map SentProbe.id)

theorem accounted_begin (c : Config) (skeleton : Probe) (caller : Option InstanceId) :
    (begin c skeleton caller).Accounted :=
  ⟨⟨[], .refl _⟩, fun _ h => by cases h⟩

theorem carried_next (x : Life) (carrier : Carrier σ) (d : Delivery σ) :
    (x.next carrier d).history.carried =
      x.history.carried ++ (x.measurement.settles? d.event).toList := by
  rw [← carried_handle x.measurement carrier d.event d.state]
  exact History.carried_cons _ _

theorem Accounted.exists_rest (hx : x.Accounted) (e : Event) :
    ∃ rest : List Nat, ((x.history.carried ++ (x.measurement.settles? e).toList).map SentProbe.id ++
      rest).Perm (x.history.accepted.map SentProbe.id) := by
  cases hs : x.measurement.settles? e with
  | none =>
    obtain ⟨rest, hrest⟩ := hx.any
    exact ⟨rest, by rwa [Option.toList_none, List.append_nil]⟩
  | some p =>
    obtain ⟨l, rest, hl, hperm⟩ := exists_rest_of_settles? hs
    refine ⟨rest, ?_⟩
    rw [Option.toList_some, List.map_append, List.append_assoc]
    exact (hperm.symm.append_left _).trans (hx.inFlight l hl)

theorem Accounted.next (hx : x.Accounted) (hc : x.Consistent c) (d : Delivery σ) :
    (x.next carrier d).Accounted := by
  refine ⟨?_, ?_⟩
  · obtain ⟨rest, hrest⟩ := hx.exists_rest d.event
    refine ⟨rest ++ ((x.measurement.handle carrier d.event d.state).actions.filterMap
      Action.accepted?).map SentProbe.id, ?_⟩
    rw [carried_next, ← List.append_assoc]
    refine (hrest.append_right _).trans (.of_eq ?_)
    exact (List.map_append ..).symm
  · intro l hl
    have hpost := posting_of_ledger? hl
    rw [carried_next]
    simp only [Life.next, History.accepted, Moment.accepted]
    generalize (x.measurement.handle carrier d.event d.state).actions = as at hpost
    cases hpost with
    | opened hp _ _ =>
      -- nothing has happened before
      rw [hc.unborn hp, settles?_eq_none (by rw [awaits, hp]), Ledger.recordAll_eq]
      exact .refl _
    | dropped hp he =>
      rw [settles?_eq_none (not_awaits hp he)]
      simpa using hx.inFlight l (ledger?_of_running hp)
    | late hp =>
      rw [settles?_eq_none (by rw [awaits, hp])]
      simpa using hx.inFlight l (ledger?_of_terminating hp)
    | @closed l₀ l' q _ hp hcl _ =>
      obtain ⟨p, hs, hid⟩ := exists_settles?_of_closes hp hcl
      have hbefore := hx.inFlight l₀ (ledger?_of_running hp)
      have hperm := hcl.inFlight.map SentProbe.id
      have hsettle : ((x.history.carried ++ [p]).map SentProbe.id ++
          l'.inFlight.map SentProbe.id).Perm (x.history.accepted.map SentProbe.id) := by
        rw [List.map_append, List.append_assoc]
        refine (List.Perm.append_left _ ?_).trans hbefore
        rw [List.map_singleton, hid]
        exact hperm.symm
      rw [hs, Ledger.recordAll_eq]
      simp only [Option.toList_some, List.map_append, ← List.append_assoc] at hsettle ⊢
      exact hsettle.append_right _

theorem accounted_after (c : Config) (skeleton : Probe) (caller : Option InstanceId)
    (ds : List (Delivery σ)) : ((begin c skeleton caller).after carrier ds).Accounted := by
  have h : ((begin c skeleton caller).after carrier ds).Consistent c ∧
      ((begin c skeleton caller).after carrier ds).Accounted :=
    after_invariant (P := fun x => x.Consistent c ∧ x.Accounted)
      ⟨consistent_begin c skeleton caller, accounted_begin c skeleton caller⟩
      (fun _ d h => ⟨h.1.next d, h.2.next h.1 d⟩) ds
  exact h.2

/-- What the ledger holds in flight is what the history does. -/
theorem Consistent.expects_eq (hx : x.Consistent c) (hf : x.history.Fresh) (e : Event) :
    x.expects e = x.measurement.awaits e := by
  unfold expects awaits
  rw [stage]
  cases hp : x.measurement.phase with
  | running l =>
    have hperm := (hx.reflects l (ledger?_of_running hp) hf).inFlight
    rw [show decide ((Phase.running l).stage = .running) = true from rfl, Bool.true_and]
    exact (hperm.any_eq).symm
  | created => rfl
  | terminating => rfl
  | terminated => rfl
  | errored => rfl

/-- What was fresh at the end was fresh before. -/
theorem fresh_of_after {ds : List (Delivery σ)} (hf : (x.after carrier ds).history.Fresh) :
    x.history.Fresh := by
  induction ds generalizing x with
  | nil => exact hf
  | cons d ds ih => exact (ih hf).tail

theorem map_told_after (hx : x.Consistent c) {ds : List (Delivery σ)}
    (hf : (x.after carrier ds).history.Fresh) :
    (x.after carrier ds).history.told.map some =
      x.history.told.map some ++ (x.arrivals carrier ds).map (Event.finding? c.target) := by
  induction ds generalizing x with
  | nil => exact (List.append_nil _).symm
  | cons d ds ih =>
    have hx₀ : x.history.Fresh := fresh_of_after hf
    have hstep : (x.next carrier d).history.told.map some = x.history.told.map some ++
        (if x.expects d.event then [d.event] else []).map (Event.finding? c.target) := by
      rw [hx.expects_eq hx₀, ← hx.config]
      show (History.told (_ :: x.history)).map some = _
      rw [History.told_cons, told_handle, List.map_append]
      cases ha : x.measurement.awaits d.event with
      | false => rfl
      | true =>
        obtain ⟨l, f, hfind, -⟩ := handle_of_awaits ha carrier d.state
        rw [if_pos rfl, if_pos rfl, hfind]
        simp [hfind]
    rw [after_cons, ih (hx.next d) hf, hstep, List.append_assoc, ← List.map_append]
    rfl

/-- What the caller is told of settled probes, from `x` on, where nothing has happened yet, until
`ds` has been delivered. -/
structure Attributes (carrier : Carrier σ) (x : Life) (ds : List (Delivery σ)) : Prop where
  /-- What the history tells of the submissions is what the carrier answered. -/
  answered : (x.after carrier ds).history.Records carrier x.measurement.skeleton ds
  /-- Each event that comes for a probe in flight is told as it came, and nothing else is. -/
  told : (x.after carrier ds).history.told.map some =
    (x.arrivals carrier ds).map (Event.finding? x.measurement.config.target)
  /-- The caller is told of no probe twice. -/
  once : ((x.after carrier ds).history.carried.map SentProbe.id).Nodup
  /-- When it is told that all are settled, it has been told of each accepted probe. -/
  complete (d : Delivery σ) (t : Summary) :
    .raise (.allProbesSent t) ∈
        ((x.after carrier ds).measurement.handle carrier d.event d.state).actions →
      (((x.after carrier ds).next carrier d).history.carried.map SentProbe.id).Perm
        (((x.after carrier ds).next carrier d).history.accepted.map SentProbe.id)
  /-- An answer or a timeout of any other probe changes nothing, and nothing is asked for. -/
  stray (d : Delivery σ) : d.event.sent?.isSome = true →
    (x.after carrier ds).measurement.stage = .running ∨
      (x.after carrier ds).measurement.stage = .terminating →
    (∀ p ∈ (x.after carrier ds).history.inFlight, d.event.carries p = false) →
    (x.after carrier ds).measurement.handle carrier d.event d.state =
      ⟨(x.after carrier ds).measurement, d.state, [], none⟩

/-- **Each settlement is told once, and of the probe that it is about.** Answers and timeouts may
come in any order and any number of times, also for probes that were never sent; equal probes are
told apart by their identities. -/
theorem settlements_attributed (c : Config) (skeleton : Probe) (caller : Option InstanceId)
    (carrier : Carrier σ) (ds : List (Delivery σ))
    (hf : ((begin c skeleton caller).after carrier ds).history.Fresh) :
    (begin c skeleton caller).Attributes carrier ds := by
  have hx : ((begin c skeleton caller).after carrier ds).Consistent c :=
    consistent_after c skeleton caller ds
  have hacc : ((begin c skeleton caller).after carrier ds).Accounted :=
    accounted_after c skeleton caller ds
  refine ⟨records_after c skeleton caller carrier ds,
    map_told_after (consistent_begin c skeleton caller) hf, ?_, ?_, ?_⟩
  · obtain ⟨rest, hrest⟩ := hacc.any
    exact (List.nodup_append.1 (hrest.nodup_iff.2 hf)).1
  · intro d t ht
    -- the measurement comes to its end, so that nothing is in flight any more
    have hend := ((handle_passage ..).closing_iff.1 ⟨_, ht, rfl⟩).2
    have hnext : (((begin c skeleton caller).after carrier ds).next carrier d).Consistent c :=
      hx.next d
    cases hp : (((begin c skeleton caller).after carrier ds).next carrier d).measurement.phase with
    | terminating l =>
      have hperm := (hacc.next hx d).inFlight l (ledger?_of_terminating hp)
      rwa [hnext.idle l hp, List.map_nil, List.append_nil] at hperm
    | _ =>
      rw [stage] at hend
      simp only [Life.next] at hp
      rw [hp] at hend
      cases hend
  · intro d he hst hd
    refine handle_of_not_awaits ((isSome_ledger?_iff _).2 hst) he ?_ carrier d.state
    rw [← hx.expects_eq hf, expects, List.any_eq_false.2 fun p hp => by rw [hd p hp]; exact
      Bool.false_ne_true, Bool.and_false]

/-- The unruly loop again; then the last probe is answered, and once more the first one. -/
def unrulyToTheEnd : List (Delivery Nat) :=
  let answer (n : Nat) : Delivery Nat := ⟨.reply ⟨⟨n, Probe.empty⟩, Probe.empty⟩, 3⟩
  unruly ++ [answer 2, answer 0]

theorem settlements_of_unruly :
    ((begin { target := .v4 1, interval := .zero } .empty none).after .counting
        unrulyToTheEnd).history.Fresh ∧
      ((begin { target := .v4 1, interval := .zero } .empty none).after .counting
        unrulyToTheEnd).history.carried.map SentProbe.id = [1, 0, 2] ∧
      (begin { target := .v4 1, interval := .zero } .empty none).Attributes .counting
        unrulyToTheEnd :=
  ⟨by decide +kernel, by decide +kernel,
    settlements_attributed { target := .v4 1, interval := .zero } .empty none .counting
      unrulyToTheEnd (by decide +kernel)⟩

end Life

end EchoProbe
