import EchoProbe.Proofs.Tally

/-!
# What a simulation reads of its script

A script has a response for every number, and may refuse a probe of any number. A simulation sends
so many probes and no more, so that it never learns what the script says of the others.

* `Scenario.Agrees` compares two scenarios over the probes that are to be sent;
* `Measurement.sendFrom_congr` says that a burst is the same in both, and
  `Simulation.Waypoint.step?_congr` that the next event is;
* `Scenario.simulate_congr` : **a simulation depends on nothing else**.
-/

namespace EchoProbe

namespace Scenario

/-- The number of probes to send. -/
def probes (s : Scenario) : Nat := (s.config .default).count.toNat

/-- The two scenarios describe the same measurement, and their scripts say the same of every probe
that is to be sent. -/
structure Agrees (s s' : Scenario) : Prop where
  target : s'.target = s.target
  count : s'.count = s.count
  intervalMs : s'.intervalMs = s.intervalMs
  timeoutMs : s'.timeoutMs = s.timeoutMs
  maxTtl : s'.maxTtl = s.maxTtl
  hosts : s'.hosts = s.hosts
  /-- They refuse the same probe, or none that is to be sent. -/
  refusal : s'.sendFailure = s.sendFailure ∨
    (∀ k ∈ s.sendFailure, s.probes ≤ k.toNat) ∧ ∀ k ∈ s'.sendFailure, s.probes ≤ k.toNat
  /-- They respond alike. -/
  response : ∀ k < s.probes, s'.response k = s.response k

/-! ### Scripts that agree -/

/-- To start over with a list is to go on with the same list once more. -/
theorem getElem?_append_self_mod {α : Type} (xs : List α) (k : Nat) :
    (xs ++ xs)[k % (xs ++ xs).length]? = xs[k % xs.length]? := by
  have hmod : k % (xs ++ xs).length % xs.length = k % xs.length :=
    Nat.mod_mod_of_dvd k ⟨2, by rw [List.length_append, Nat.mul_two]⟩
  by_cases h : k % (xs ++ xs).length < xs.length
  · rw [List.getElem?_append_left h, ← hmod, Nat.mod_eq_of_lt h]
  · have hle := Nat.not_lt.1 h
    rcases xs.length.eq_zero_or_pos with hnil | hpos
    · simp [List.eq_nil_of_length_eq_zero hnil]
    · have hlen : (xs ++ xs).length = xs.length + xs.length := List.length_append
      have hlt : k % (xs ++ xs).length < (xs ++ xs).length := Nat.mod_lt _ (by omega)
      rw [Nat.mod_eq_sub_mod hle, Nat.mod_eq_of_lt (by omega)] at hmod
      rw [List.getElem?_append_right hle, hmod]

theorem response_append_self (s : Scenario) (k : Nat) :
    { s with responses := s.responses ++ s.responses }.response k = s.response k := by
  simp only [response, getElem?_append_self_mod]

theorem response_append (s : Scenario) (rs : List Response) {k : Nat}
    (h : k < s.responses.length) :
    { s with responses := s.responses ++ rs }.response k = s.response k := by
  have h' : k < (s.responses ++ rs).length := by
    rw [List.length_append]
    omega
  simp only [response, Nat.mod_eq_of_lt h, Nat.mod_eq_of_lt h', List.getElem?_append_left h]

namespace Agrees

variable {s s' : Scenario} {timeout : Duration}

theorem config (h : s.Agrees s') (flags : Flags) : s'.config flags = s.config flags := by
  simp only [Scenario.config, h.target, h.count, h.intervalMs, h.timeoutMs, h.maxTtl]

theorem fate (h : s.Agrees s') {k : Nat} (hk : k < s.probes) : s'.fate k = s.fate k := by
  rw [Scenario.fate, h.response k hk, h.target, Scenario.fate]

theorem refuses_iff (h : s.Agrees s') {k : Nat} (hk : k < s.probes) :
    s'.sendFailure.map UInt64.toNat = some k ↔ s.sendFailure.map UInt64.toNat = some k := by
  rcases h.refusal with heq | ⟨hs, hs'⟩
  · rw [heq]
  · -- what either of them refuses is not to be sent
    have hnot : ∀ x : Option UInt64, (∀ j ∈ x, s.probes ≤ j.toNat) →
        x.map UInt64.toNat ≠ some k := by
      intro x hx hk'
      obtain ⟨j, hj, rfl⟩ := Option.map_eq_some_iff.1 hk'
      exact Nat.not_lt.2 (hx j hj) hk
    exact iff_of_false (hnot _ hs') (hnot _ hs)

/-- Both networks do the same with a probe that is to be sent. -/
theorem submit (h : s.Agrees s') {w : World} (hw : w.accepted < s.probes) (p : Probe) :
    s'.submit timeout w p = s.submit timeout w p := by
  simp only [Scenario.submit, appointment?, h.refuses_iff hw, h.fate hw]

end Agrees

end Scenario

variable {s s' : Scenario} {timeout : Duration}

/-- A burst is the same in both networks while it stays within the number of probes to send. -/
theorem Measurement.sendFrom_congr (h : s.Agrees s') (room : Room) (skeleton : Probe)
    (i n : Nat) (l : Ledger) {w : World} (hw : w.accepted + n ≤ s.probes) :
    sendFrom (s'.carrier timeout room) skeleton i n l w =
      sendFrom (s.carrier timeout room) skeleton i n l w := by
  induction n generalizing i l w with
  | zero => rfl
  | succ n ih =>
    have hsubmit : s'.submit timeout w (copy skeleton i) = s.submit timeout w (copy skeleton i) :=
      h.submit (by omega) _
    simp only [sendFrom, Scenario.carrier, hsubmit]
    rcases s.submit_cases timeout w (copy skeleton i) with ⟨f, -, -, hs⟩ | ⟨e, -, hs⟩
    · -- the network has accepted one probe more, and there is one less to send
      have hrest := ih (i + 1) (l.record f.sent) (w := { w with
        accepted := w.accepted + 1
        agenda := w.agenda.arm f.appointment.due f.appointment.event }) (by
          show w.accepted + 1 + n ≤ s.probes
          omega)
      simp only [Scenario.carrier] at hrest
      simp only [hs, hrest]
    · simp only [hs]

namespace Simulation

variable {room : Room} {c : Config} {sim : Simulation} {ts : List (Turn World)}

/-- The next event is answered alike in both networks when the measurement knows of all the probes
that have been accepted. -/
theorem step?_congr (h : s.Agrees s') (hcount : sim.measurement.config.count.toNat = s.probes)
    (hsent : sim.world.accepted = sim.measurement.sentSoFar)
    (hle : sim.world.accepted ≤ s.probes) :
    sim.step? (s'.carrier timeout room) = sim.step? (s.carrier timeout room) := by
  cases hnext : sim.next? with
  | none => simp only [step?, hnext, Option.map_none]
  | some x =>
    obtain ⟨e, sim₁⟩ := x
    obtain ⟨hm, hw⟩ := measurement_of_next? hnext
    rcases Measurement.handle_uniform sim₁.measurement room e sim₁.world with
      ⟨turn, hturn⟩ | ⟨m, as, n, l, hn, hturn⟩
    · rw [step?_of_next? hnext (hturn _ rfl), step?_of_next? hnext (hturn _ rfl)]
    · rw [hm, hcount, ← hsent] at hn
      have hburst : sim₁.world.accepted + n ≤ s.probes := by omega
      have hturn' := hturn (s'.carrier timeout room) rfl
      rw [Measurement.sendFrom_congr h _ _ _ _ _ hburst] at hturn'
      rw [step?_of_next? hnext hturn', step?_of_next? hnext (hturn _ rfl)]

/-- **From each waypoint, both networks lead the same way.** -/
theorem Waypoint.step?_congr (h : s.Agrees s') (hc : c.count.toNat = s.probes)
    (hway : Waypoint s room c ts sim) (hsim : sim.isFinished = false) :
    sim.step? (s'.carrier c.timeout room) = sim.step? (s.carrier c.timeout room) := by
  cases hway with
  | fresh _ hfresh =>
    subst hfresh
    exact Simulation.step?_congr h hc rfl (Nat.zero_le _)
  | crowded _ hst => cases hsim.symm.trans (isFinished_of_stage hst)
  | refused _ hst => cases hsim.symm.trans (isFinished_of_stage hst)
  | completed _ hst => cases hsim.symm.trans (isFinished_of_stage hst)
  | @underway fs done l hu =>
    -- the ledger shows the probes that the network has accepted
    have hsize : l.sent.size = fs.length := by
      rw [← Array.length_toList, hu.shows.sent, List.length_map]
    have haccepted : sim.world.accepted = l.sent.size := hu.booked.accepted.trans hsize.symm
    refine Simulation.step?_congr h (hu.config.symm ▸ hc) ?_ ?_
    · rw [Measurement.sentSoFar, Measurement.ledger?_of_running hu.phase]
      exact haccepted
    · rw [haccepted, ← hc, hu.full.sent]
      exact Nat.min_le_left _ _
  | closing _ hclosing =>
    obtain ⟨t, sim', hstep, -⟩ := hclosing.step
    rw [hstep, hstep]

/-- Wherever a simulation comes in the one scenario, it comes in the other one. -/
theorem Follows.congr (h : s.Agrees s') (hv : c.validate = .ok ()) (hc : c.count.toNat = s.probes)
    (hf : sim.Follows s room (.new c c.echoSkeleton none) ts) :
    sim.Follows s' room (.new c c.echoSkeleton none) ts := by
  have hboth : sim.Follows s room (.new c c.echoSkeleton none) ts ∧
      sim.Follows s' room (.new c c.echoSkeleton none) ts := by
    refine Journey.invariant (P := fun ts sim =>
      sim.Follows s room (.new c c.echoSkeleton none) ts ∧
        sim.Follows s' room (.new c c.echoSkeleton none) ts) hf ⟨.nil _, .nil _⟩ ?_
    rintro ts sim t sim' ⟨hs, hs'⟩ hsim hstep
    have hsame := (Waypoint.of_follows hv hs).step?_congr h hc hsim
    exact ⟨hs.concat hsim hstep, hs'.concat hsim (hsame.trans hstep)⟩
  exact hboth.2

end Simulation

namespace Scenario

theorem run_congr (h : s.Agrees s') (room : Room) {c : Config} (hv : c.validate = .ok ())
    (hc : c.count.toNat = s.probes) :
    s'.run room (.new c c.echoSkeleton none) = s.run room (.new c c.echoSkeleton none) := by
  obtain ⟨ts, sim, hf, hsim⟩ := Simulation.exists_follows s room hv
  rw [s.run_eq_shown hv hf hsim, s'.run_eq_shown hv (hf.congr h hv hc) hsim]

/-- **A simulation reads its script up to the number of probes to send, and no further.** Two
scenarios of the same measurement whose scripts agree so far have the same outcome, whatever this
is. -/
theorem simulate_congr (s s' : Scenario) (room : Room) (flags : Flags) (h : s.Agrees s') :
    simulate room s' flags = simulate room s flags := by
  cases hb : Measurement.build (s.config flags) none none with
  | error e =>
    have hb' : Measurement.build (s'.config flags) none none = .error e := by
      rw [h.config flags, hb]
    rw [simulate_of_build_eq_error room hb, simulate_of_build_eq_error room hb']
  | ok m =>
    have hb' : Measurement.build (s'.config flags) none none = .ok m := by
      rw [h.config flags, hb]
    obtain ⟨hv, hm⟩ := Measurement.eq_new_of_build hb
    have hrun : s'.run room m = s.run room m := by
      rw [hm]
      exact run_congr h room hv rfl
    rw [simulate_of_build room hb, simulate_of_build room hb', h.hosts, hrun]

/-- The responses of `overtaking` twice over, and a refusal that never comes. -/
def overtakingTwice : Scenario :=
  { overtaking with
    responses := overtaking.responses ++ overtaking.responses
    sendFailure := some 5 }

theorem simulate_congr_overtaking :
    overtaking.Agrees overtakingTwice ∧
      simulate .ample overtakingTwice .default = simulate .ample overtaking .default ∧
      overtakingTwice.Agrees
        { overtakingTwice with responses := overtakingTwice.responses ++ [.silence] } ∧
      simulate .ample { overtakingTwice with responses := overtakingTwice.responses ++ [.silence] }
        .default = simulate .ample overtakingTwice .default ∧
      (simulate .ample overtaking .default).toOption.map (·.events.length) = some 10 := by
  have htwice : overtaking.Agrees overtakingTwice := by
    refine ⟨rfl, rfl, rfl, rfl, rfl, rfl, .inr ⟨?_, ?_⟩, fun k _ => ?_⟩
    · rintro k ⟨⟩
    · rintro k ⟨⟩
      decide
    · exact overtaking.response_append_self k
  have hlonger : overtakingTwice.Agrees
      { overtakingTwice with responses := overtakingTwice.responses ++ [.silence] } := by
    refine ⟨rfl, rfl, rfl, rfl, rfl, rfl, .inl rfl, fun k hk => ?_⟩
    exact overtakingTwice.response_append [.silence] (Nat.lt_of_lt_of_le hk (by decide))
  exact ⟨htwice, simulate_congr overtaking overtakingTwice .ample .default htwice, hlonger,
    simulate_congr overtakingTwice _ .ample .default hlonger, by decide +kernel⟩

end Scenario

end EchoProbe
