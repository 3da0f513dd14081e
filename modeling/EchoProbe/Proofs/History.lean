import Mathlib.Data.List.Induction
import EchoProbe.Proofs.Turn

/-!
# The ledger as a function of the history

A loop may hand any events to a measurement, in any order, and accept or refuse what it is asked
to send. The history of a measurement lists the events and what was asked over each of them.

* `Life` is a measurement with its history, `Life.after` the same after some more events;
* `History.accepted`, `History.settlements` and `History.inFlight` read the history alone: which
  probes were accepted, which events settled a probe, and which probes are not settled yet;
* `History.Records` says that a history tells what the carrier answered, and `Life.records_after`
  that every history does;
* `Ledger.Reflects` compares a ledger with a history, and `Life.ledger_reflects_history` says that
  the ledger of a measurement always reflects its history.
-/

namespace EchoProbe

/-- An event that is handed to a measurement, and the state of the loop at that moment. Between two
events a loop may change as it likes. -/
structure Delivery (σ : Type) where
  /-- The event. -/
  event : Event
  /-- The state of the loop. -/
  state : σ

/-- One event in the life of a measurement, and what was asked of the loop over it. -/
structure Moment where
  /-- The event. -/
  event : Event
  /-- What was asked of the loop, in order. -/
  actions : List Action

/-- The probes that the loop accepted over the event, in order. -/
def Moment.accepted (x : Moment) : List SentProbe := x.actions.filterMap Action.accepted?

/-- What has happened to a measurement, the latest first. -/
abbrev History := List Moment

/-- The probes among `ps` that none of the events settles. -/
def outstanding (ps : List SentProbe) (es : List Event) : List SentProbe :=
  ps.filter fun p => !es.any (·.carries p)

namespace History

/-- Every probe that the loop accepted, in order. -/
def accepted : History → List SentProbe
  | [] => []
  | x :: h => accepted h ++ x.accepted

/-- The replies and timeouts of probes that were in flight at that moment, in order. -/
def settlements : History → List Event
  | [] => []
  | x :: h =>
    if (outstanding (accepted h) (settlements h)).any x.event.carries then
      settlements h ++ [x.event]
    else settlements h

/-- The probes that were accepted and are not settled yet. -/
def inFlight (h : History) : List SentProbe := outstanding (accepted h) (settlements h)

/-- Everything that was asked of the loop, in order. -/
def actions : History → List Action
  | [] => []
  | x :: h => actions h ++ x.actions

/-- No two probes were accepted under the same identity. -/
def Fresh (h : History) : Prop := ((accepted h).map SentProbe.id).Nodup

instance (h : History) : Decidable h.Fresh :=
  inferInstanceAs (Decidable ((accepted h).map SentProbe.id).Nodup)

end History

/-- A measurement and what has happened to it. -/
structure Life where
  /-- The measurement. -/
  measurement : Measurement
  /-- What has happened to it. -/
  history : History

namespace Life

variable {σ : Type}

/-- A measurement to which nothing has happened. -/
def begin (c : Config) (skeleton : Probe) (caller : Option InstanceId) : Life :=
  ⟨.new c skeleton caller, []⟩

/-- One more event. -/
def next (carrier : Carrier σ) (x : Life) (d : Delivery σ) : Life :=
  let turn := x.measurement.handle carrier d.event d.state
  ⟨turn.measurement, ⟨d.event, turn.actions⟩ :: x.history⟩

/-- Some more events, one after the other. -/
def after (carrier : Carrier σ) (x : Life) (ds : List (Delivery σ)) : Life :=
  ds.foldl (next carrier) x

theorem after_cons (carrier : Carrier σ) (x : Life) (d : Delivery σ) (ds : List (Delivery σ)) :
    x.after carrier (d :: ds) = (x.next carrier d).after carrier ds := rfl

theorem after_append (carrier : Carrier σ) (x : Life) (ds ds' : List (Delivery σ)) :
    x.after carrier (ds ++ ds') = (x.after carrier ds).after carrier ds' := List.foldl_append ..

theorem after_invariant {carrier : Carrier σ} {P : Life → Prop} {x : Life} (h₀ : P x)
    (hstep : ∀ x d, P x → P (x.next carrier d)) (ds : List (Delivery σ)) :
    P (x.after carrier ds) := by
  induction ds generalizing x with
  | nil => exact h₀
  | cons d ds ih => exact ih (hstep x d h₀)

end Life

/-- Over some deliveries, the submissions that a history tells of are what the carrier was asked for
and what it answered, each time from the state in which the delivery found it. -/
inductive History.Records {σ : Type} (carrier : Carrier σ) (skeleton : Probe) :
    List (Delivery σ) → History → Prop
  | nil : Records carrier skeleton [] []
  | concat {ds : List (Delivery σ)} {h : History} {d : Delivery σ} {as : List Action} {s : σ} :
      Records carrier skeleton ds h → Measurement.Answered carrier skeleton d.state as s →
      Records carrier skeleton (ds ++ [d]) (⟨d.event, as⟩ :: h)

/-- **What a history tells of the submissions is what the carrier answered.** -/
theorem Life.records_after {σ : Type} (c : Config) (skeleton : Probe) (caller : Option InstanceId)
    (carrier : Carrier σ) (ds : List (Delivery σ)) :
    ((begin c skeleton caller).after carrier ds).history.Records carrier skeleton ds := by
  have hboth : ((begin c skeleton caller).after carrier ds).measurement.skeleton = skeleton ∧
      ((begin c skeleton caller).after carrier ds).history.Records carrier skeleton ds := by
    induction ds using List.reverseRecOn with
    | nil => exact ⟨rfl, .nil⟩
    | append_singleton ds d ih =>
      obtain ⟨hskeleton, hrecords⟩ := ih
      have ha := ((begin c skeleton caller).after carrier ds).measurement.handle_answered carrier
        d.event d.state
      rw [hskeleton] at ha
      rw [after_append]
      exact ⟨(Measurement.handle_sameTask ..).skeleton.trans hskeleton, .concat hrecords ha⟩
  exact hboth.2

/-! ### Identities -/

theorem Event.carries_iff {e : Event} {p : SentProbe} :
    e.carries p = true ↔ ∃ q, e.sent? = some q ∧ q.id = p.id := by
  simp [carries, Option.any_eq_true]

theorem Event.id_eq_of_carries {e : Event} {p q : SentProbe} (hp : e.carries p = true)
    (hq : e.carries q = true) : p.id = q.id := by
  obtain ⟨a, ha, hap⟩ := carries_iff.1 hp
  obtain ⟨b, hb, hbq⟩ := carries_iff.1 hq
  rw [ha, Option.some.injEq] at hb
  rw [← hap, ← hbq, hb]

theorem outstanding_append (ps qs : List SentProbe) (es : List Event) :
    outstanding (ps ++ qs) es = outstanding ps es ++ outstanding qs es :=
  List.filter_append ..

/-- What one more event leaves outstanding is what was outstanding and is not carried by it. -/
theorem outstanding_concat (ps : List SentProbe) (es : List Event) (e : Event) :
    outstanding ps (es ++ [e]) = (outstanding ps es).filter fun p => !e.carries p := by
  simp only [outstanding, List.filter_filter, List.any_append, List.any_cons, List.any_nil,
    Bool.or_false, Bool.not_or]
  exact List.filter_congr fun p _ => Bool.and_comm _ _

namespace History

theorem exists_accepted_of_mem_settlements {h : History} {e : Event} (he : e ∈ h.settlements) :
    ∃ p ∈ h.accepted, e.carries p = true := by
  induction h with
  | nil => cases he
  | cons x h ih =>
    -- whatever was accepted before counts as accepted now
    have hmono : (∃ p ∈ accepted h, e.carries p = true) →
        ∃ p ∈ accepted (x :: h), e.carries p = true := by
      rintro ⟨p, hp, hc⟩
      exact ⟨p, List.mem_append_left _ hp, hc⟩
    rw [settlements] at he
    split at he
    · rename_i hany
      rcases List.mem_append.1 he with he | he
      · exact hmono (ih he)
      · rw [List.mem_singleton.1 he] at hmono ⊢
        obtain ⟨p, hp, hc⟩ := List.any_eq_true.1 hany
        exact hmono ⟨p, (List.mem_filter.1 hp).1, hc⟩
    · exact hmono (ih he)

theorem Fresh.tail {x : Moment} {h : History} (hf : Fresh (x :: h)) : Fresh h := by
  rw [Fresh, accepted, List.map_append] at hf
  exact (List.nodup_append.1 hf).1

/-- A probe that was accepted just now has not been settled before. -/
theorem not_carries_of_fresh {x : Moment} {h : History} (hf : Fresh (x :: h)) {p : SentProbe}
    (hp : p ∈ x.accepted) {e : Event} {q : SentProbe} (hq : q ∈ h.accepted)
    (he : e.carries q = true) : e.carries p = false := by
  rw [Fresh, accepted, List.map_append] at hf
  have hne : q.id ≠ p.id :=
    (List.nodup_append.1 hf).2.2 _ (List.mem_map_of_mem hq) _ (List.mem_map_of_mem hp)
  exact Bool.eq_false_iff.2 fun hc => hne (Event.id_eq_of_carries he hc)

end History

/-! ### What a ledger shows of a history -/

/-- The ledger is what the history comes to. -/
structure Ledger.Reflects (target : IpAddr) (h : History) (l : Ledger) : Prop where
  /-- Every accepted probe, in order. -/
  sent : l.sent.toList = h.accepted
  /-- The accepted probes that are not settled, in some order. -/
  inFlight : l.inFlight.Perm h.inFlight
  /-- The number of events that settled a probe. -/
  settled : l.settled = h.settlements.length
  /-- The number of timeouts among them. -/
  losses : l.losses = h.settlements.countP Event.isTimeout
  /-- The round trip times of the replies from the target among them, in order. -/
  samples : l.samples.toList = h.settlements.filterMap (Event.sample? target)

namespace Ledger

variable {target : IpAddr} {h : History} {l l' : Ledger} {e : Event}

theorem reflects_empty : empty.Reflects target [] := ⟨rfl, .refl _, rfl, rfl, rfl⟩

/-- Identities in flight are distinct when the accepted ones are. -/
theorem Reflects.nodup_inFlight (hr : l.Reflects target h) (hf : h.Fresh) :
    (l.inFlight.map SentProbe.id).Nodup := by
  have hs : (h.inFlight.map SentProbe.id).Sublist (h.accepted.map SentProbe.id) :=
    List.Sublist.map _ List.filter_sublist
  exact ((hr.inFlight.map SentProbe.id).nodup_iff).2 (hs.nodup hf)

theorem Reflects.ignore (hr : l.Reflects target h) (he : ∀ q ∈ l.inFlight, e.carries q = false) :
    l.Reflects target (⟨e, []⟩ :: h) := by
  have hany : (outstanding h.accepted h.settlements).any e.carries = false := by
    rw [List.any_eq_false]
    intro q hq
    rw [he q (hr.inFlight.mem_iff.2 hq)]
    exact Bool.false_ne_true
  have ha : History.accepted (⟨e, []⟩ :: h) = h.accepted := List.append_nil _
  have hs : History.settlements (⟨e, []⟩ :: h) = h.settlements := by
    rw [History.settlements, hany]; rfl
  refine ⟨?_, ?_, ?_, ?_, ?_⟩
  · rw [ha]; exact hr.sent
  · rw [History.inFlight, ha, hs]; exact hr.inFlight
  · rw [hs]; exact hr.settled
  · rw [hs]; exact hr.losses
  · rw [hs]; exact hr.samples

/-- An event about a probe in flight settles that one probe and no other. -/
theorem Reflects.settle {q : SentProbe} (hr : l.Reflects target h) (hf : h.Fresh)
    (hc : Closes target l e q l') : l'.Reflects target (⟨e, []⟩ :: h) := by
  have hq : q ∈ l.inFlight := hc.inFlight.mem_iff.2 List.mem_cons_self
  have hany : (outstanding h.accepted h.settlements).any e.carries = true :=
    List.any_eq_true.2 ⟨q, hr.inFlight.mem_iff.1 hq, hc.carries⟩
  have ha : History.accepted (⟨e, []⟩ :: h) = h.accepted := List.append_nil _
  have hs : History.settlements (⟨e, []⟩ :: h) = h.settlements ++ [e] := by
    rw [History.settlements, hany]; rfl
  -- the event carries none of the others, as their identities are different
  have hrest : l'.inFlight.filter (fun p => !e.carries p) = l'.inFlight := by
    rw [List.filter_eq_self]
    intro p hp
    have hn : ((q :: l'.inFlight).map SentProbe.id).Nodup :=
      ((hc.inFlight.map SentProbe.id).nodup_iff).1 (hr.nodup_inFlight hf)
    rw [List.map_cons, List.nodup_cons] at hn
    rw [Bool.not_eq_true', Bool.eq_false_iff]
    intro hcp
    exact hn.1 (Event.id_eq_of_carries hc.carries hcp ▸ List.mem_map_of_mem hp)
  refine ⟨?_, ?_, ?_, ?_, ?_⟩
  · rw [ha, hc.sent]; exact hr.sent
  · -- what is left in flight is what the event does not carry
    rw [History.inFlight, ha, hs, outstanding_concat]
    have hp := (hc.inFlight.symm.trans hr.inFlight).filter fun p => !e.carries p
    rw [List.filter_cons_of_neg (by rw [hc.carries]; exact Bool.false_ne_true), hrest] at hp
    exact hp
  · rw [hs, hc.settled, hr.settled, List.length_append]; rfl
  · rw [hs, hc.losses, hr.losses, List.countP_append, List.countP_singleton]
  · rw [hs, hc.samples, hr.samples, List.filterMap_append]
    cases hd : e.sample? target <;> simp [hd]

theorem Reflects.send {as : List Action} (hr : l.Reflects target (⟨e, []⟩ :: h))
    (hf : History.Fresh (⟨e, as⟩ :: h)) :
    (l.recordAll (as.filterMap Action.accepted?)).Reflects target (⟨e, as⟩ :: h) := by
  have hs : History.settlements (⟨e, as⟩ :: h) = History.settlements (⟨e, []⟩ :: h) := rfl
  have ha : History.accepted (⟨e, as⟩ :: h) = h.accepted ++ as.filterMap Action.accepted? := rfl
  have ha₀ : History.accepted (⟨e, []⟩ :: h) = h.accepted := List.append_nil _
  -- what has just been accepted was not settled before
  have hnew : outstanding (as.filterMap Action.accepted?) (History.settlements (⟨e, []⟩ :: h)) =
      as.filterMap Action.accepted? := by
    refine List.filter_eq_self.2 ?_
    intro p hp
    rw [Bool.not_eq_true', List.any_eq_false]
    intro e' he'
    obtain ⟨q, hq, hc⟩ := History.exists_accepted_of_mem_settlements he'
    rw [ha₀] at hq
    rw [History.not_carries_of_fresh hf hp hq hc]
    exact Bool.false_ne_true
  rw [recordAll_eq]
  refine ⟨?_, ?_, ?_, ?_, ?_⟩
  · rw [ha, ← ha₀, ← hr.sent]; simp
  · rw [History.inFlight, ha, hs, outstanding_append, hnew, ← ha₀]
    exact hr.inFlight.append_right _
  · rw [hs]; exact hr.settled
  · rw [hs]; exact hr.losses
  · rw [hs]; exact hr.samples

end Ledger

/-! ### The ledger of a life -/

namespace Ledger

/-- Every probe sent is either in flight or settled, and no more are sent than asked for. -/
structure Balanced (count : Nat) (l : Ledger) : Prop where
  sent : l.sent.size = l.settled + l.inFlight.length
  le_count : l.sent.size ≤ count

theorem Balanced.recordAll {count : Nat} {l : Ledger} {ps : List SentProbe}
    (hl : l.sent.size = l.settled + l.inFlight.length) (hn : l.sent.size + ps.length ≤ count) :
    (l.recordAll ps).Balanced count := by
  rw [recordAll_eq]
  refine ⟨?_, ?_⟩
  · simp only [Array.size_append, List.size_toArray, List.length_append, hl, Nat.add_assoc]
  · simpa using hn

theorem Closes.balance {target : IpAddr} {l l' : Ledger} {e : Event} {q : SentProbe}
    (hc : Closes target l e q l') (hl : l.sent.size = l.settled + l.inFlight.length) :
    l'.sent.size = l'.settled + l'.inFlight.length := by
  have hlen := hc.inFlight.length_eq
  rw [List.length_cons] at hlen
  rw [hc.sent, hc.settled, hl, hlen]
  omega

end Ledger

namespace Life

variable {σ : Type} {carrier : Carrier σ}

/-- What is true of every life of a measurement with configuration `c`. -/
structure Consistent (c : Config) (x : Life) : Prop where
  config : x.measurement.config = c
  /-- A measurement that has not started has no past. -/
  unborn : x.measurement.phase = .created → x.history = []
  /-- A measurement that waits for its end has nothing in flight. -/
  idle : ∀ l, x.measurement.phase = .terminating l → l.inFlight = []
  balanced : ∀ l, x.measurement.ledger? = some l → l.Balanced c.count.toNat
  reflects : ∀ l, x.measurement.ledger? = some l → x.history.Fresh →
    l.Reflects c.target x.history

theorem consistent_begin (c : Config) (skeleton : Probe) (caller : Option InstanceId) :
    (begin c skeleton caller).Consistent c where
  config := rfl
  unborn _ := rfl
  idle _ h := by cases h
  balanced _ h := by cases h
  reflects _ h := by cases h

theorem Consistent.next {c : Config} {x : Life} (hx : x.Consistent c) (d : Delivery σ) :
    (x.next carrier d).Consistent c where
  config := (Measurement.handle_sameTask ..).config.trans hx.config
  unborn h := (Measurement.handle_phase_ne_created _ _ _ _ h).elim
  idle _ h := Measurement.inFlight_eq_nil_of_handle hx.idle h
  balanced l h := by
    have hp := Measurement.posting_of_ledger? h
    generalize (x.measurement.handle carrier d.event d.state).actions = as at hp
    rw [← hx.config]
    cases hp with
    | opened _ _ hn => exact .recordAll rfl (by simpa [Ledger.empty] using hn)
    | dropped hp =>
      rw [hx.config]
      exact hx.balanced l (Measurement.ledger?_of_running hp)
    | late hp =>
      rw [hx.config]
      exact hx.balanced l (Measurement.ledger?_of_terminating hp)
    | @closed l₀ l' q _ hp hc hn =>
      have hb := hx.balanced l₀ (Measurement.ledger?_of_running hp)
      rw [← hx.config] at hb
      refine .recordAll (hc.balance hb.sent) ?_
      rw [hc.sent]
      have := hb.le_count
      omega
  reflects l h hf := by
    have hp := Measurement.posting_of_ledger? h
    simp only [Life.next] at hf hp ⊢
    generalize (x.measurement.handle carrier d.event d.state).actions = as at hf hp ⊢
    cases hp with
    | opened hp he _ =>
      -- there has been no event before
      have hh := hx.unborn hp
      rw [hh] at hf ⊢
      refine (Ledger.reflects_empty.ignore ?_).send hf
      exact fun q hq => by cases hq
    | dropped hp he =>
      exact (hx.reflects l (Measurement.ledger?_of_running hp) hf.tail).ignore he
    | late hp =>
      -- nothing is in flight any more that the event could be about
      refine (hx.reflects l (Measurement.ledger?_of_terminating hp) hf.tail).ignore ?_
      rw [hx.idle l hp]
      exact fun q hq => by cases hq
    | @closed l₀ l' q _ hp hc hn =>
      have hr := hx.reflects l₀ (Measurement.ledger?_of_running hp) hf.tail
      rw [hx.config] at hc
      exact (hr.settle hf.tail hc).send hf

theorem consistent_after (c : Config) (skeleton : Probe) (caller : Option InstanceId)
    (ds : List (Delivery σ)) : ((begin c skeleton caller).after carrier ds).Consistent c :=
  after_invariant (consistent_begin c skeleton caller) (fun _ d h => h.next d) ds

/-- **The ledger is a function of the history**, and the history tells what the carrier accepted and
refused. Whatever events a loop hands over, and whatever it accepts or refuses, a measurement that
has a ledger has one that shows the accepted probes in order, those that are not settled, each once,
and how the others were settled, in order. So every probe sent is answered, lost or in flight. -/
theorem ledger_reflects_history (c : Config) (skeleton : Probe) (caller : Option InstanceId)
    (carrier : Carrier σ) (ds : List (Delivery σ)) {l : Ledger}
    (hf : ((begin c skeleton caller).after carrier ds).history.Fresh)
    (hl : ((begin c skeleton caller).after carrier ds).measurement.ledger? = some l) :
    ((begin c skeleton caller).after carrier ds).history.Records carrier skeleton ds ∧
      l.Reflects c.target ((begin c skeleton caller).after carrier ds).history ∧
      (l.inFlight.map SentProbe.id).Nodup ∧
      l.sent.size = l.settled + l.inFlight.length ∧
      l.sent.size ≤ c.count.toNat ∧
      l.losses ≤ l.settled ∧
      l.summary.transmitted = l.summary.received + l.summary.losses + l.inFlight.length := by
  have hx : ((begin c skeleton caller).after carrier ds).Consistent c :=
    consistent_after c skeleton caller ds
  have hr := hx.reflects l hl hf
  have hb := hx.balanced l hl
  have hle : l.losses ≤ l.settled := by
    rw [hr.losses, hr.settled]
    exact List.countP_le_length
  refine ⟨records_after c skeleton caller carrier ds, hr, hr.nodup_inFlight hf, hb.sent,
    hb.le_count, hle, ?_⟩
  calc l.sent.size = l.settled + l.inFlight.length := hb.sent
    _ = l.settled - l.losses + l.losses + l.inFlight.length := by rw [Nat.sub_add_cancel hle]

end Life

/-- Accepts everything and numbers what it accepts. -/
def Carrier.counting : Carrier Nat := ⟨.ample, fun n p => (.ok ⟨n, p⟩, n + 1)⟩

namespace Life

/-- Three probes without an interval, and an unruly loop: one probe times out twice, one that was
never sent times out, and the target answers the first. -/
def unruly : List (Delivery Nat) :=
  let reply : Probe :=
    { Probe.empty with
      fields := .ofList [.address "src_ip" (.v4 1)]
      received := some ⟨5, by decide, by decide⟩ }
  let sent (n : Nat) : SentProbe := ⟨n, Probe.empty.setSent .epoch⟩
  [⟨.start, 0⟩, ⟨.timeout (sent 1), 3⟩, ⟨.timeout (sent 1), 3⟩, ⟨.timeout (sent 9), 3⟩,
   ⟨.reply ⟨sent 0, reply⟩, 3⟩]

theorem ledger_reflects_unruly_history :
    ∃ l, ((begin { target := .v4 1, interval := .zero } .empty none).after .counting
        unruly).history.Fresh ∧
      ((begin { target := .v4 1, interval := .zero } .empty none).after .counting
        unruly).measurement.ledger? = some l ∧
      l.Reflects (.v4 1) ((begin { target := .v4 1, interval := .zero } .empty none).after .counting
        unruly).history ∧
      l.summary.transmitted = 3 ∧ l.summary.received = 1 ∧ l.summary.losses = 1 ∧
      l.samples.size = 1 ∧ l.inFlight.length = 1 :=
  ⟨_, by decide +kernel, rfl,
    (ledger_reflects_history { target := .v4 1, interval := .zero } .empty none .counting unruly
      (by decide +kernel) rfl).2.1,
    by decide +kernel, by decide +kernel, by decide +kernel, by decide +kernel,
    by decide +kernel⟩

end Life

end EchoProbe
