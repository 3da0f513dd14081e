import Mathlib.Data.List.Basic
import EchoProbe.Proofs.Timetable

/-!
# The tally of a simulation

What a simulation comes to can be read off its script, probe by probe.

* `classify_echoReply` and `classify_reply_eq_reached_iff` say which scripted replies reach the
  target;
* `Scenario.sample?` and `Scenario.verdict` read off the script what counts for the statistics, and
  what the user is told of a probe;
* `Scenario.Tally` is the outcome in these terms, and `Scenario.simulate_tally` says that a
  simulation has this outcome if the network accepts every probe and the clock can hold all times
  of the plan.
-/

namespace EchoProbe

/-! ### Scripted replies -/

theorem value_replyProbe (version : Nat) (source : IpAddr) (type code : Nat) :
    (replyProbe version source type code).value "version" = .ok (.truncate .int4 version) ∧
      (replyProbe version source type code).value "src_ip" = .ok (.ofAddress source) ∧
      (replyProbe version source type code).value "type" = .ok (.truncate .int8 type) ∧
      (replyProbe version source type code).value "code" = .ok (.truncate .int8 code) := by
  have hfields : replyProbe version source type code =
      (((Probe.empty.setField (.int .int4 "version" version)).setField
        (.address "src_ip" source)).setField (.int .int8 "type" type)).setField
          (.int .int8 "code" code) := rfl
  rw [hfields]
  simp [Probe.value_setField, Field.int, Field.address]

theorem address?_replyProbe (version : Nat) (source : IpAddr) (type code : Nat) :
    (replyProbe version source type code).address? "src_ip" = some source := by
  rw [Probe.address?, Probe.address, (value_replyProbe version source type code).2.1]
  exact congrArg Except.toOption (Value.address_ofAddress source)

theorem IcmpHeader.outcome_ne_reached (h : IcmpHeader) : h.outcome ≠ .reached := by
  unfold outcome
  split
  · rename_i r hr
    have hall : ∀ r ∈ rules, r.outcome ≠ .reached := by decide
    exact hall r (List.mem_of_find?_eq_some hr)
  · exact Classification.noConfusion

/-- A reply is from the target if it bears its address, whatever it says. -/
theorem classify_replyProbe_eq_reached_iff (target : IpAddr) (version : Nat) (source : IpAddr)
    (type code : Nat) :
    classify target (replyProbe version source type code) = .reached ↔ source = target := by
  rw [classify, address?_replyProbe]
  by_cases h : source = target
  · simp [h]
  · rw [if_neg fun e => h (Option.some.inj e)]
    -- without its address, the header decides, and no header means that it was reached
    refine iff_of_false ?_ h
    split
    · exact IcmpHeader.outcome_ne_reached _
    · exact Classification.noConfusion

theorem classify_echoReply (target : IpAddr) : classify target (echoReply target) = .reached :=
  (classify_replyProbe_eq_reached_iff ..).2 rfl

theorem classify_reply_eq_reached_iff {target : IpAddr} {m : IcmpMessage} :
    classify target m.reply = .reached ↔ m.sender = target :=
  classify_replyProbe_eq_reached_iff ..

/-- When a reply comes is of no matter for what it tells. -/
theorem classify_setReceived (target : IpAddr) (reply : Probe) (t : Instant) :
    classify target (reply.setReceived t) = classify target reply := rfl

namespace Scenario

variable {s : Scenario} {timeout : Duration} {k : Nat}

/-- The scripted round trip time of a probe that reaches the target in time. -/
def sample? (s : Scenario) (timeout : Duration) (k : Nat) : Option Duration :=
  match s.response k with
  | .silence => none
  | .echo ms => if Duration.ofMillis ms < timeout then some (.ofMillis ms) else none
  | .icmp m =>
    if Duration.ofMillis m.roundTripMs < timeout ∧ m.sender = s.target then
      some (.ofMillis m.roundTripMs)
    else none

/-- What the user is told of a probe. -/
def verdict (s : Scenario) (timeout : Duration) (k : Nat) : FindingType :=
  match s.answer? timeout k with
  | some (_, reply) => .answered (classify s.target reply)
  | none => .timeout

theorem sample?_of_answer {d : Duration} {reply : Probe}
    (h : s.answer? timeout k = some (d, reply)) :
    s.sample? timeout k = if classify s.target reply = .reached then some d else none := by
  unfold answer? at h
  unfold sample?
  cases hr : s.response k with
  | silence => rw [hr] at h; cases h
  | echo ms =>
    rw [hr] at h
    dsimp only at h ⊢
    split at h
    · rename_i hlt
      cases h
      rw [if_pos hlt, if_pos (classify_echoReply s.target)]
    · cases h
  | icmp m =>
    rw [hr] at h
    dsimp only at h ⊢
    split at h
    · rename_i hlt
      cases h
      by_cases hm : m.sender = s.target
      · rw [if_pos ⟨hlt, hm⟩, if_pos (classify_reply_eq_reached_iff.2 hm)]
      · rw [if_neg fun h => hm h.2, if_neg fun h => hm (classify_reply_eq_reached_iff.1 h)]
    · cases h

theorem sample?_of_no_answer (h : s.answer? timeout k = none) : s.sample? timeout k = none := by
  unfold answer? at h
  unfold sample?
  cases hr : s.response k with
  | silence => rfl
  | echo ms =>
    rw [hr] at h
    exact if_neg fun hlt => by simp [hlt] at h
  | icmp m =>
    rw [hr] at h
    exact if_neg fun hlt => by simp [hlt.1] at h

end Scenario

/-- What a scripted flight counts for. -/
theorem Flight.Scripted.reading {s : Scenario} {timeout : Duration} {k : Nat} {f : Flight}
    (h : f.Scripted s timeout k) :
    f.appointment.event.isTimeout = !(s.answer? timeout k).isSome ∧
      f.appointment.event.sample? s.target = s.sample? timeout k ∧
      ∃ finding, f.appointment.event.finding? s.target = some finding ∧
        finding.type = s.verdict timeout k := by
  rcases h.event_cases with ⟨d, reply, x, t, ha, he, -, hx, hround⟩ | ⟨ha, he⟩
  · have hclass : classify s.target x.reply = classify s.target reply := by
      rw [hx, classify_setReceived]
    rw [he, ha, Scenario.sample?_of_answer ha, Scenario.verdict, ha]
    refine ⟨rfl, ?_, .answered (classify s.target x.reply) x, rfl, ?_⟩
    · rw [Event.sample?, hclass, hround]
    · rw [Finding.type, hclass]
  · rw [he, ha, Scenario.sample?_of_no_answer ha, Scenario.verdict, ha]
    exact ⟨rfl, rfl, .timeout f.sent, rfl, rfl⟩

/-! ### The outcome -/

/-- The outcome of a scenario as its script has it. -/
structure Scenario.Tally (s : Scenario) (c : Config) (o : Outcome) : Prop where
  /-- Nothing stops the measurement. -/
  completes : o.failure = none
  /-- Each probe is settled once. -/
  each : (s.settlingOrder c).Perm (List.range c.count.toNat)
  /-- The tally counts the answers that come in time, and takes the statistics of those from the
  target. -/
  summary : ∃ t, o.summary = some t ∧ t.transmitted = c.count.toNat ∧
    t.received = (List.range c.count.toNat).countP (fun k => (s.answer? c.timeout k).isSome) ∧
    t.losses = c.count.toNat - t.received ∧
    (t.roundTrips = none ↔ ∀ k < c.count.toNat, s.sample? c.timeout k = none) ∧
    t.roundTrips = Statistics.ofDurations? ((s.settlingOrder c).filterMap (s.sample? c.timeout))
  /-- Between the start and the end, the user is told of each probe, and now and then to wait. -/
  events : ∃ body,
    o.events = .start :: (body ++ [.outward .allProbesSent, .terminated]) ∧
    body.filter (fun t => t ≠ .outward .wait) =
      (s.settlingOrder c).map fun k => .outward (s.verdict c.timeout k)

namespace Completed

variable {s : Scenario} {c : Config} {fs : List Flight} {as : List Appointment}

theorem map_number (h : Completed s c fs as) : as.map Appointment.number = s.settlingOrder c := by
  have hplan := map_slot_eq_plan h.scripted h.punctual h.perm h.ordered
  rw [Scenario.settlingOrder, ← h.length, ← hplan, List.map_map]
  rfl

theorem reading (h : Completed s c fs as) (ht : c.target = s.target) {a : Appointment}
    (ha : a ∈ as) :
    a.event.isTimeout = !(s.answer? c.timeout a.number).isSome ∧
      a.event.sample? c.target = s.sample? c.timeout a.number ∧
      ∃ finding, a.event.finding? c.target = some finding ∧
        finding.type = s.verdict c.timeout a.number := by
  obtain ⟨k, f, -, rfl, hf⟩ := h.exists_flight ha
  rw [ht, hf.number]
  exact hf.reading

theorem countP_isTimeout (h : Completed s c fs as) (ht : c.target = s.target) :
    c.count.toNat - as.countP (·.event.isTimeout) =
      (List.range c.count.toNat).countP fun k => (s.answer? c.timeout k).isSome := by
  have hlost : as.countP (·.event.isTimeout) =
      (List.range c.count.toNat).countP fun k => ¬(s.answer? c.timeout k).isSome := by
    rw [← h.perm_range.countP_eq, List.countP_map]
    refine List.countP_congr ?_
    intro a ha
    rw [(h.reading ht ha).1]
    simp
  have hall := List.length_eq_countP_add_countP (fun k => (s.answer? c.timeout k).isSome)
    (l := List.range c.count.toNat)
  rw [List.length_range, ← hlost] at hall
  omega

theorem samples (h : Completed s c fs as) (ht : c.target = s.target) :
    as.filterMap (·.event.sample? c.target) =
      (as.map Appointment.number).filterMap (s.sample? c.timeout) := by
  rw [List.filterMap_map]
  exact List.filterMap_congr fun a ha => (h.reading ht ha).2.1

end Completed

/-- Waits apart, the kinds of the events between start and end are the verdicts on the probes. -/
theorem types_chronicle {s : Scenario} {c : Config} {as : List Appointment}
    (h : ∀ a ∈ as, ∃ f, a.event.finding? c.target = some f ∧
      f.type = s.verdict c.timeout a.number) (r : Nat) :
    ((c.chronicle r as).map (·.2.type)).filter (fun t => t ≠ .outward .wait) =
      (as.map Appointment.number).map fun k => .outward (s.verdict c.timeout k) := by
  induction as generalizing r with
  | nil => rfl
  | cons a as ih =>
    obtain ⟨⟨f, hf, htype⟩, has⟩ := List.forall_mem_cons.1 h
    have hne : f.type ≠ .wait := by
      rw [htype, Scenario.verdict]
      split <;> exact FindingType.noConfusion
    have hhead : ((c.entries (r + 1) a).map (·.2.type)).filter (fun t => t ≠ .outward .wait) =
        [.outward (s.verdict c.timeout a.number)] := by
      rw [Simulation.entries_of_finding? hf, ← htype, List.map_cons,
        List.filter_cons_of_pos (by simpa [Event.type] using hne)]
      split <;> rfl
    rw [Config.chronicle, List.map_append, List.filter_append, hhead, ih has]
    rfl

theorem summary?_of_mem_chronicle {c : Config} {r : Nat} {as : List Appointment}
    {x : Duration × Event} (hx : x ∈ c.chronicle r as) : x.2.summary? = none := by
  induction as generalizing r with
  | nil => cases hx
  | cons a as ih =>
    rcases List.mem_append.1 hx with hx | hx
    · obtain ⟨f, hf, rfl⟩ := List.mem_map.1 hx
      rcases List.mem_append.1 hf with hf | hf
      · rw [Option.mem_toList] at hf
        cases he : a.event <;> rw [he] at hf <;> cases hf <;> rfl
      · split at hf
        · rw [List.mem_singleton.1 hf]
          rfl
        · cases hf
    · exact ih hx

theorem filterMap_summary?_chronicle (c : Config) (r : Nat) (as : List Appointment) :
    (c.chronicle r as).filterMap (·.2.summary?) = [] :=
  List.filterMap_eq_nil_iff.2 fun _ hx => summary?_of_mem_chronicle hx

theorem filterMap_summary?_fullRun (c : Config) (as : List Appointment) :
    (c.fullRun as).trace.filterMap (·.2.summary?) = [c.tally as] := by
  show (c.chronicle 0 as ++ c.closing as).filterMap (·.2.summary?) = [c.tally as]
  rw [List.filterMap_append, filterMap_summary?_chronicle]
  rfl

theorem filterMap_summary?_cutRun (c : Config) (as : List Appointment) (e : Error) :
    (c.cutRun as e).trace.filterMap (·.2.summary?) = [] :=
  filterMap_summary?_chronicle c 0 as

/-- The outcome of a full run is that of the script. -/
theorem Completed.tally {s : Scenario} {c : Config} {fs : List Flight} {as : List Appointment}
    (h : Completed s c fs as) (ht : c.target = s.target) (report : Report) :
    s.Tally c ((c.fullRun as).outcome report) := by
  have hsamples := h.samples ht
  have hreceived := h.countP_isTimeout ht
  have horder := h.perm_range
  have htypes := types_chronicle (fun a ha => (h.reading ht ha).2.2) 0
  rw [h.map_number] at hsamples horder htypes
  refine ⟨rfl, horder, ⟨c.tally as, ?_, rfl, hreceived, ?_, ?_, ?_⟩, ?_⟩
  · show ((c.fullRun as).trace.filterMap (·.2.summary?)).getLast? = some (c.tally as)
    rw [filterMap_summary?_fullRun]
    rfl
  · have hle : as.countP (·.event.isTimeout) ≤ c.count.toNat := by
      rw [← h.length_appointments]
      exact List.countP_le_length
    show as.countP _ = c.count.toNat - (c.count.toNat - as.countP _)
    omega
  · show Statistics.ofDurations? _ = none ↔ _
    rw [hsamples, Statistics.ofDurations?_eq_none_iff, List.filterMap_eq_nil_iff]
    constructor
    · intro hnone k hk
      exact hnone k (horder.mem_iff.2 (List.mem_range.2 hk))
    · intro hnone k hk
      exact hnone k (List.mem_range.1 (horder.mem_iff.1 hk))
  · show Statistics.ofDurations? _ = _
    rw [hsamples]
  · refine ⟨(c.chronicle 0 as).map (·.2.type), ?_, ?_⟩
    · show ((.zero, .start) :: (c.chronicle 0 as ++ c.closing as)).map
        (fun x : Duration × Event => x.2.type) = _
      rw [List.map_cons, List.map_append]
      rfl
    · exact htypes

theorem simulate_of_build (room : Room) {s : Scenario} {flags : Flags} {m : Measurement}
    (hm : Measurement.build (s.config flags) none none = .ok m) :
    simulate room s flags =
      if (s.run room m).failure = some .clockOverflow then .error .clockOverflow
      else .ok ((s.run room m).outcome { config := m.config, hosts := s.hosts }) := by
  unfold simulate
  rw [hm]
  by_cases hf : (s.run room m).failure = some .clockOverflow
  · simp only [bind, Except.bind, if_pos hf]
    rfl
  · simp only [bind, Except.bind, if_neg hf]
    rfl

theorem simulate_of_build_eq_error (room : Room) {s : Scenario} {flags : Flags} {e : Error}
    (hm : Measurement.build (s.config flags) none none = .error e) :
    simulate room s flags = .error e := by
  simp only [simulate, hm, bind, Except.bind]

/-- **The outcome of a simulation can be read off its script.** If the network accepts every probe
and the clock can hold all times of the plan, each probe is settled once as the script has it. -/
theorem Scenario.simulate_tally (s : Scenario) (room : Room) (flags : Flags)
    (hv : (s.config flags).validate = .ok ())
    (hroom : room (s.config flags).count.toNat = true)
    (hsend : ∀ k, s.sendFailure = some k → (s.config flags).count ≤ k)
    (hclock : ∀ k < (s.config flags).count.toNat,
      s.Fits (s.config flags).timeout k (s.sendingTime (s.config flags) k)) :
    ∃ o, simulate room s flags = .ok o ∧ s.Tally (s.config flags) o := by
  have hm : Measurement.build (s.config flags) none none =
      .ok (.new (s.config flags) (s.config flags).echoSkeleton none) := by
    rw [Measurement.build, hv]
    rfl
  rcases s.run_cases hv hroom with ⟨fs, as, w, e, hend, -⟩ | ⟨fs, as, hend, h⟩
  · -- neither the clock nor the script refuses a probe
    have hlt := hend.lt_count
    rcases hend.refusal with ⟨-, hfits⟩ | ⟨hf, -⟩
    · exact (hfits (hclock _ hlt)).elim
    · obtain ⟨n, hn, hnat⟩ := Option.map_eq_some_iff.1 hf
      have hle : (s.config flags).count.toNat ≤ n.toNat := hsend n hn
      omega
  · have hf : (s.run room (.new (s.config flags) (s.config flags).echoSkeleton none)).failure =
        none := by
      rw [h]
      rfl
    have hsim := simulate_of_build room hm
    rw [if_neg (by rw [hf]; exact fun e => by cases e)] at hsim
    refine ⟨_, hsim, ?_⟩
    rw [h]
    exact hend.tally rfl _

theorem Scenario.tally_of_overtaking :
    (overtaking.config .default).validate = .ok () ∧
      Room.ample (overtaking.config .default).count.toNat = true ∧
      (∀ k, overtaking.sendFailure = some k → (overtaking.config .default).count ≤ k) ∧
      (∀ k < (overtaking.config .default).count.toNat, overtaking.Fits
        (overtaking.config .default).timeout k
        (overtaking.sendingTime (overtaking.config .default) k)) ∧
      overtaking.settlingOrder (overtaking.config .default) = [2, 0, 3, 1, 4] ∧
      ∃ o, simulate .ample overtaking .default = .ok o ∧
        overtaking.Tally (overtaking.config .default) o := by
  have hsend : ∀ k, overtaking.sendFailure = some k → (overtaking.config .default).count ≤ k :=
    fun k h => by cases h
  have hclock : ∀ k < (overtaking.config .default).count.toNat, overtaking.Fits
      (overtaking.config .default).timeout k
      (overtaking.sendingTime (overtaking.config .default) k) := by decide +kernel
  exact ⟨rfl, by decide, hsend, hclock, by decide +kernel,
    overtaking.simulate_tally .ample .default rfl rfl hsend hclock⟩

end EchoProbe
