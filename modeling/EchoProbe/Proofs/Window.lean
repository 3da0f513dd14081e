import EchoProbe.Proofs.History

/-!
# The window is always full

A loop that accepts every probe lets a measurement run to its end. On the way, as many probes are
in flight as the window holds, or all that are left.

* `Ledger.Full` gives the numbers of probes sent and in flight from the number settled, and
  `Measurement.InStep.handle` says that no event changes this, even if the loop refuses a probe;
* `Measurement.Decision` is what follows a settlement: one more probe, a wait, or the end;
* `Measurement.Beat` lists what an event can do to a measurement with a full window, and
  `Measurement.handle_beat` says that there is nothing else;
* `Life.window_always_full` puts the numbers together over a whole life.
-/

namespace EchoProbe

variable {σ : Type}

/-- A carrier that refuses nothing. -/
def Carrier.Obliging (carrier : Carrier σ) : Prop :=
  ∀ s p, ∃ sent s', carrier.submit s p = (.ok sent, s')

theorem Carrier.counting_obliging : Carrier.counting.Obliging := fun s p => ⟨⟨s, p⟩, s + 1, rfl⟩

/-- As many probes are in flight as the window holds, or all that are left. -/
structure Ledger.Full (c : Config) (l : Ledger) : Prop where
  le_count : l.settled ≤ c.count.toNat
  inFlight : l.inFlight.length = min c.window (c.count.toNat - l.settled)
  sent : l.sent.size = min c.count.toNat (l.settled + c.window)

/-! ### What is sent -/

namespace Measurement

variable {carrier : Carrier σ}

theorem sendFrom_obliging (hc : carrier.Obliging) (skeleton : Probe) (i n : Nat) (l : Ledger)
    (s : σ) :
    ∃ ps s₁, ps.length = n ∧ Accepts carrier skeleton i s ps s₁ ∧
      sendFrom carrier skeleton i n l s =
        ⟨.running (l.recordAll ps), s₁, submissions skeleton i ps, none⟩ := by
  obtain ⟨ps, s₁, ha, ⟨hn, h⟩ | ⟨-, e, s₂, hr, -⟩⟩ := sendFrom_cases carrier skeleton i n l s
  · exact ⟨ps, s₁, hn, ha, h⟩
  · -- nothing is refused
    obtain ⟨p, s', hs⟩ := hc s₁ (copy skeleton (i + ps.length))
    rw [hs] at hr
    cases hr

theorem schedule_empty {m : Measurement} {c : Config} (hm : m.config = c)
    (hw : m.window = c.window) (hn : 0 < c.count.toNat) (carrier : Carrier σ) (s : σ) :
    m.schedule carrier .empty s = sendFrom carrier m.skeleton 1 c.window .empty s := by
  have hd : m.due .empty = c.window := by
    rw [due, hm, hw]
    exact Nat.min_eq_right c.window_le_count
  rw [schedule, hd, if_pos]
  refine ⟨Config.window_pos hn, ?_⟩
  rw [hm]
  exact Nat.ne_of_lt hn

/-- The numbers just after a settlement, when the window has been full before. -/
structure Reopened (c : Config) (l : Ledger) : Prop where
  pos : 0 < l.settled
  le_count : l.settled ≤ c.count.toNat
  inFlight : l.inFlight.length + 1 = min c.window (c.count.toNat - l.settled + 1)
  sent : l.sent.size = min c.count.toNat (l.settled + c.window - 1)

theorem reopened_of_closes {c : Config} {l l' : Ledger} {target : IpAddr} {e : Event}
    {q : SentProbe} (hl : l.Full c) (hlt : l.settled < c.count.toNat)
    (hc : l.Closes target e q l') : Reopened c l' := by
  have hlen := hc.inFlight.length_eq
  rw [List.length_cons, hl.inFlight] at hlen
  refine ⟨?_, ?_, ?_, ?_⟩
  · rw [hc.settled]; exact Nat.succ_pos _
  · rw [hc.settled]; exact hlt
  · rw [hc.settled, ← hlen]
    congr 1
    omega
  · rw [hc.settled, hc.sent, hl.sent]
    congr 1
    omega

theorem full_recordAll_empty {c : Config} (hn : 0 < c.count.toNat) {ps : List SentProbe}
    (hps : ps.length = c.window) :
    (Ledger.empty.recordAll ps).Full c ∧ (Ledger.empty.recordAll ps).settled < c.count.toNat := by
  have hwc := c.window_le_count
  rw [Ledger.recordAll_eq]
  refine ⟨⟨Nat.zero_le _, ?_, ?_⟩, hn⟩
  · simp only [Ledger.empty, List.nil_append, hps]
    omega
  · simp only [Ledger.empty, List.append_toArray, List.nil_append, List.size_toArray, hps]
    omega

/-- One more probe fills the window again. -/
theorem Reopened.full_record {c : Config} {l : Ledger} (hl : Reopened c l)
    (hr : l.settled ≤ c.count.toNat - c.window) (p : SentProbe) :
    (l.record p).Full c ∧ (l.record p).settled < c.count.toNat := by
  obtain ⟨h₀, h₁, h₂, h₃⟩ := hl
  have hwc := c.window_le_count
  refine ⟨⟨h₁, ?_, ?_⟩, ?_⟩
  · simp only [Ledger.record, List.length_append, List.length_singleton]
    omega
  · simp only [Ledger.record, Array.size_push]
    omega
  · show l.settled < c.count.toNat
    omega

/-- Once all are sent, the window is as full as it can be. -/
theorem Reopened.full {c : Config} {l : Ledger} (hl : Reopened c l)
    (hr : c.count.toNat - c.window < l.settled) : l.Full c := by
  obtain ⟨h₀, h₁, h₂, h₃⟩ := hl
  have hwc := c.window_le_count
  exact ⟨h₁, by omega, by omega⟩

section

variable {m : Measurement} {c : Config} {l : Ledger}

/-- While there are probes left to send, a settlement makes room for exactly one, -/
theorem due_refill (hm : m.config = c) (hw : m.window = c.window) (hl : Reopened c l)
    (hr : l.settled ≤ c.count.toNat - c.window) : m.due l = 1 := by
  obtain ⟨h₀, h₁, h₂, h₃⟩ := hl
  have hwc := c.window_le_count
  rw [due, hm, hw]
  omega

/-- and once all are sent, nothing is due. -/
theorem due_drain (hm : m.config = c) (hl : Reopened c l)
    (hr : c.count.toNat - c.window < l.settled) : m.due l = 0 := by
  obtain ⟨h₀, h₁, h₂, h₃⟩ := hl
  have hwc := c.window_le_count
  rw [due, hm]
  omega

theorem schedule_refill (hm : m.config = c) (hw : m.window = c.window) (hl : Reopened c l)
    (hr : l.settled ≤ c.count.toNat - c.window) (carrier : Carrier σ) (s : σ) :
    m.schedule carrier l s = sendFrom carrier m.skeleton 1 1 l s := by
  have hd := due_refill hm hw hl hr
  obtain ⟨h₀, h₁, h₂, h₃⟩ := hl
  have hwc := c.window_le_count
  rw [schedule, hd, if_pos]
  refine ⟨Nat.one_pos, ?_⟩
  rw [hm]
  omega

theorem schedule_drain (hm : m.config = c) (hl : Reopened c l)
    (hr : c.count.toNat - c.window < l.settled) (carrier : Carrier σ) (s : σ) :
    m.schedule carrier l s =
      if l.settled = c.count.toNat then
        ⟨.terminating l, s, [.raise (.allProbesSent l.summary), .raiseTerminated], none⟩
      else ⟨.running l, s, [.raise .wait], none⟩ := by
  have hd := due_drain hm hl hr
  obtain ⟨h₀, h₁, h₂, h₃⟩ := hl
  have hwc := c.window_le_count
  have he : l.inFlight.isEmpty = true ↔ l.settled = c.count.toNat := by
    rw [List.isEmpty_iff_length_eq_zero]
    omega
  rw [schedule, hd, if_neg fun h => Nat.lt_irrefl 0 h.1]
  simp only [he]

end

end Measurement

/-- The window is full, and the end has come if everything is settled. -/
def Phase.InStep (c : Config) : Phase → Prop
  | running l => l.Full c ∧ l.settled < c.count.toNat
  | terminating l => l.Full c ∧ l.settled = c.count.toNat
  | _ => True

namespace Measurement

variable {carrier : Carrier σ}

/-! ### What an event can do -/

/-- The event settles a probe that is in flight. -/
def awaits (m : Measurement) (e : Event) : Bool :=
  match m.phase with
  | .running l => l.inFlight.any e.carries
  | _ => false

/-- What follows a settlement: `l` is the ledger just after it, and `f` what the caller is told of
it. -/
structure Decision (c : Config) (skeleton : Probe) (f : Finding) (l : Ledger) (turn : Turn σ) :
    Prop where
  /-- One more probe, while not all are sent. -/
  refill : l.settled ≤ c.count.toNat - c.window → ∃ p,
    turn.actions = [.raise f, .submit (copy skeleton 1) (some p)] ∧
      turn.measurement.phase = .running (l.record p)
  /-- A wait, once all are sent and not all are settled. -/
  wait : c.count.toNat - c.window < l.settled → l.settled < c.count.toNat →
    turn.actions = [.raise f, .raise .wait] ∧ turn.measurement.phase = .running l
  /-- The end, once all are settled. -/
  finish : l.settled = c.count.toNat →
    turn.actions = [.raise f, .raise (.allProbesSent l.summary), .raiseTerminated] ∧
      turn.measurement.phase = .terminating l

/-- A measurement with configuration `c` that has always kept its window full. -/
structure InStep (c : Config) (m : Measurement) : Prop where
  config : m.config = c
  window : ∀ l, m.phase = .running l → m.window = c.window
  phase : m.phase.InStep c

theorem InStep.running {c : Config} {m : Measurement} {l : Ledger} (hm : m.InStep c)
    (hp : m.phase = .running l) : l.Full c ∧ l.settled < c.count.toNat := by
  have h := hm.phase
  rw [hp] at h
  exact h

theorem InStep.full {c : Config} {m : Measurement} {l : Ledger} (hm : m.InStep c)
    (hl : m.ledger? = some l) :
    l.Full c ∧ (m.stage = .terminating ↔ l.settled = c.count.toNat) := by
  have h := hm.phase
  rw [ledger?] at hl
  rw [stage]
  cases hp : m.phase <;> rw [hp] at h hl <;> cases hl
  · exact ⟨h.1, by simpa [Phase.stage] using Nat.ne_of_lt h.2⟩
  · exact ⟨h.1, iff_of_true rfl h.2⟩

/-- What an event can do to a measurement that keeps its window full. -/
inductive Beat (c : Config) (m : Measurement) (e : Event) : Turn σ → Prop
  /-- The measurement starts and fills its window. -/
  | opened {turn : Turn σ} {ps : List SentProbe} : m.phase = .created → ps.length = c.window →
      turn.actions = .throwEvent m.caller .start :: submissions m.skeleton 1 ps →
      turn.measurement.phase = .running (Ledger.empty.recordAll ps) →
      turn.measurement.window = c.window → Beat c m e turn
  /-- A probe in flight is settled. -/
  | settled {turn : Turn σ} {l l' : Ledger} {q : SentProbe} {f : Finding} :
      m.phase = .running l → l.Closes c.target e q l' → e.finding? c.target = some f →
      Decision c m.skeleton f l' turn → turn.measurement.window = m.window → Beat c m e turn
  /-- The event is ignored. -/
  | kept {turn : Turn σ} : m.phase ≠ .created → m.awaits e = false → turn.measurement = m →
      turn.actions = [] → Beat c m e turn
  /-- The measurement is stopped or gives up, but not over an answer or a timeout. -/
  | ended {turn : Turn σ} : (m.phase = .created → e ≠ .start) →
      (m.ledger?.isSome = true → e.sent? = none) → turn.measurement.ledger? = none →
      (∀ a ∈ turn.actions, a.isSubmit = false ∧ a.isWait = false) → Beat c m e turn

section

variable {m : Measurement} {c : Config} {e : Event}

theorem decision_of_reopened (hc : carrier.Obliging) (hm : m.config = c)
    (hw : m.window = c.window) {l : Ledger} (hl : Reopened c l) (f : Finding) (s : σ) :
    Decision c m.skeleton f l (m.conclude [.raise f] (m.schedule carrier l s)) := by
  refine ⟨?_, ?_, ?_⟩
  · intro hr
    obtain ⟨ps, s₁, hn, -, h⟩ := sendFrom_obliging hc m.skeleton 1 1 l s
    obtain ⟨p, rfl⟩ := List.length_eq_one_iff.1 hn
    refine ⟨p, ?_⟩
    rw [schedule_refill hm hw hl hr, h]
    exact ⟨rfl, rfl⟩
  · intro hr hlt
    rw [schedule_drain hm hl hr, if_neg (Nat.ne_of_lt hlt)]
    exact ⟨rfl, rfl⟩
  · intro hr
    have hwpos : 0 < c.window := Config.window_pos (hr ▸ hl.pos)
    have hlt : c.count.toNat - c.window < l.settled := by
      have := hl.pos
      omega
    rw [schedule_drain hm hl hlt, if_pos hr]
    exact ⟨rfl, rfl⟩

theorem awaits_of_closes {l l' : Ledger} {target : IpAddr} {q : SentProbe}
    (hp : m.phase = .running l) (hc : l.Closes target e q l') : m.awaits e = true := by
  rw [awaits, hp]
  exact List.any_eq_true.2 ⟨q, hc.inFlight.mem_iff.2 List.mem_cons_self, hc.carries⟩

theorem not_awaits {l : Ledger} (hp : m.phase = .running l)
    (h : ∀ q ∈ l.inFlight, e.carries q = false) : m.awaits e = false := by
  rw [awaits, hp]
  refine List.any_eq_false.2 ?_
  intro q hq
  rw [h q hq]
  exact Bool.false_ne_true

theorem window_conclude (m : Measurement) (as : List Action) (p : Progress σ) :
    (m.conclude as p).measurement.window = m.window := by
  unfold conclude
  cases p.failure <;> rfl

/-- **An event starts the measurement, settles a probe, is ignored, or ends the measurement.** A
settlement is followed by the decision that its number calls for. -/
theorem handle_beat (hc : carrier.Obliging) (hv : c.validate = .ok ())
    (hroom : carrier.room c.count.toNat = true) (hm : m.InStep c) (e : Event) (s : σ) :
    Beat c m e (m.handle carrier e s) := by
  have hr := handle_reaction m carrier e s
  generalize m.handle carrier e s = turn at hr
  cases hr with
  | finished hf =>
    rcases isFinished_stage_iff.1 hf with hp | hp <;>
    · refine .kept ?_ ?_ rfl rfl
      · rw [hp]; exact Phase.noConfusion
      · rw [awaits, hp]
  | invalid _ _ hi =>
    rw [hm.config, hv] at hi
    cases hi
  | crowded _ _ _ hl =>
    rw [hm.config, hroom] at hl
    cases hl
  | started hp he =>
    have hpos := Config.count_pos_of_validate hv
    have hs : Measurement.schedule { m with window := m.config.window } carrier .empty s =
        sendFrom carrier m.skeleton 1 c.window .empty s :=
      schedule_empty (m := { m with window := m.config.window }) hm.config
        (congrArg Config.window hm.config) hpos carrier s
    simp only [hs]
    obtain ⟨ps, s₁, hn, -, h⟩ := sendFrom_obliging hc m.skeleton 1 c.window .empty s
    rw [h]
    exact .opened hp hn rfl rfl (congrArg Config.window hm.config)
  | @dropped l hp he hcl =>
    refine .kept ?_ (not_awaits hp (Ledger.close?_eq_none_iff.1 hcl)) rfl rfl
    rw [hp]; exact Phase.noConfusion
  | @settled l l' f hp hcl hf =>
    obtain ⟨q, hq⟩ := Ledger.closes_of_close? hcl
    obtain ⟨hl, hlt⟩ := hm.running hp
    have hre := reopened_of_closes hl hlt hq
    rw [hm.config] at hq hf
    exact .settled hp hq hf (decision_of_reopened hc hm.config (hm.window l hp) hre f s)
      (window_conclude ..)
  | late hp he =>
    refine .kept ?_ ?_ rfl rfl
    · rw [hp]; exact Phase.noConfusion
    · rw [awaits, hp]
  | stopped _ he =>
    rw [he]
    exact .ended (fun _ => Event.noConfusion) (fun _ => rfl) rfl
      (List.forall_mem_singleton.2 ⟨rfl, rfl⟩)
  | aborted _ he =>
    rw [he]
    exact .ended (fun _ => Event.noConfusion) (fun _ => rfl) rfl
      (List.forall_mem_singleton.2 ⟨rfl, rfl⟩)
  | misplaced he =>
    change m.phase.stage.handles e.type = false at he
    refine .ended ?_ ?_ rfl (List.forall_mem_singleton.2 ⟨rfl, rfl⟩)
    · intro hp hs
      rw [hp, hs] at he
      cases he
    · -- an answer or a timeout would not be out of place
      intro hp
      cases hsent : e.sent? with
      | none => rfl
      | some p =>
        rw [Phase.handles_of_sent? hp (by rw [hsent]; rfl)] at he
        cases he

theorem inStep_of_ledger?_eq_none (hm : m.config = c) (hl : m.ledger? = none) : m.InStep c := by
  refine ⟨hm, ?_, ?_⟩
  · intro l hp
    rw [ledger?_of_running hp] at hl
    cases hl
  · rw [ledger?] at hl
    cases hp : m.phase <;> rw [hp] at hl <;> trivial

/-- A decision that does not fail goes on with its own phase, and a failure is an end. -/
theorem inStep_conclude (hm : m.config = c) (hw : m.window = c.window) (as : List Action)
    {p : Progress σ} (hp : p.failure = none → p.phase.InStep c) :
    (m.conclude as p).measurement.InStep c := by
  unfold conclude
  cases hf : p.failure with
  | none => exact ⟨hm, fun _ _ => hw, hp hf⟩
  | some cause => exact inStep_of_ledger?_eq_none hm rfl

/-- A burst that does not fail enters all that it should. -/
theorem phase_sendFrom {skeleton : Probe} {i n : Nat} {l : Ledger} {s : σ}
    (h : (sendFrom carrier skeleton i n l s).failure = none) :
    ∃ ps, ps.length = n ∧
      (sendFrom carrier skeleton i n l s).phase = .running (l.recordAll ps) := by
  obtain ⟨ps, s₁, -, ⟨hn, hs⟩ | ⟨-, cause, s₂, -, hs⟩⟩ := sendFrom_cases carrier skeleton i n l s
  · rw [hs]
    exact ⟨ps, hn, rfl⟩
  · rw [hs] at h
    cases h

/-- **A full window stays full,** whatever the loop accepts or refuses: over a probe that it
refuses, the measurement ends. -/
theorem InStep.handle (hm : m.InStep c) (carrier : Carrier σ) (e : Event) (s : σ) :
    (m.handle carrier e s).measurement.InStep c := by
  have hr := handle_reaction m carrier e s
  generalize m.handle carrier e s = turn at hr
  cases hr with
  | finished => exact hm
  | dropped => exact hm
  | late => exact hm
  | started hp he hv =>
    have hpos := Config.count_pos_of_validate (hm.config ▸ hv)
    have hw : m.config.window = c.window := congrArg Config.window hm.config
    refine inStep_conclude (m := { m with window := m.config.window }) hm.config hw _ ?_
    rw [schedule_empty (m := { m with window := m.config.window }) hm.config hw hpos]
    intro hf
    obtain ⟨ps, hn, hps⟩ := phase_sendFrom hf
    rw [hps]
    exact full_recordAll_empty hpos hn
  | @settled l l' f hp hcl hf =>
    obtain ⟨q, hq⟩ := Ledger.closes_of_close? hcl
    obtain ⟨hl, hlt⟩ := hm.running hp
    have hw := hm.window l hp
    have hre := reopened_of_closes hl hlt hq
    refine inStep_conclude hm.config hw _ ?_
    by_cases hr : c.count.toNat - c.window < l'.settled
    · rw [schedule_drain hm.config hre hr]
      intro _
      rcases Nat.lt_or_eq_of_le hre.le_count with hlt | heq
      · rw [if_neg (Nat.ne_of_lt hlt)]
        exact ⟨hre.full hr, hlt⟩
      · rw [if_pos heq]
        exact ⟨hre.full hr, heq⟩
    · rw [schedule_refill hm.config hw hre (Nat.not_lt.1 hr)]
      intro hf
      obtain ⟨ps, hn, hps⟩ := phase_sendFrom hf
      obtain ⟨p, rfl⟩ := List.length_eq_one_iff.1 hn
      rw [hps]
      exact hre.full_record (Nat.not_lt.1 hr) p
  | invalid => exact inStep_of_ledger?_eq_none hm.config rfl
  | crowded => exact inStep_of_ledger?_eq_none hm.config rfl
  | stopped => exact inStep_of_ledger?_eq_none hm.config rfl
  | aborted => exact inStep_of_ledger?_eq_none hm.config rfl
  | misplaced => exact inStep_of_ledger?_eq_none hm.config rfl

end

/-- The number of probes settled so far. -/
def settledSoFar (m : Measurement) : Nat := m.ledger?.elim 0 Ledger.settled

theorem settled_of_handle {m : Measurement} {e : Event} {s : σ} {l : Ledger}
    (h : (m.handle carrier e s).measurement.ledger? = some l) :
    l.settled = m.settledSoFar + if m.awaits e then 1 else 0 := by
  have hpost := posting_of_ledger? h
  generalize (m.handle carrier e s).actions = as at hpost
  cases hpost with
  | opened hp => rw [Ledger.recordAll_eq, settledSoFar, awaits, ledger?, hp]; rfl
  | dropped hp he => rw [not_awaits hp he, settledSoFar, ledger?_of_running hp]; rfl
  | late hp => rw [settledSoFar, ledger?_of_terminating hp, awaits, hp]; rfl
  | closed hp hc =>
    rw [awaits_of_closes hp hc, Ledger.recordAll_eq, settledSoFar, ledger?_of_running hp]
    exact hc.settled

end Measurement

namespace Action

/-- No probe is sent after a wait. -/
def WaitsLast (as : List Action) : Prop :=
  as.Pairwise fun a b => a.isWait = true → b.isSubmit = false

theorem WaitsLast.append {as bs : List Action} (ha : WaitsLast as) (hb : WaitsLast bs)
    (h : ∀ a ∈ as, a.isWait = true → ∀ b ∈ bs, b.isSubmit = false) : WaitsLast (as ++ bs) :=
  List.pairwise_append.2 ⟨ha, hb, fun a hma b hmb hw => h a hma hw b hmb⟩

theorem waitsLast_of_no_submit {as : List Action} (h : ∀ a ∈ as, a.isSubmit = false) :
    WaitsLast as :=
  List.pairwise_of_forall_mem_list fun _ _ b hb _ => h b hb

theorem waitsLast_of_no_wait {as : List Action} (h : ∀ a ∈ as, a.isWait = false) :
    WaitsLast as :=
  List.pairwise_of_forall_mem_list fun a ha _ _ hw => by rw [h a ha] at hw; cases hw

theorem isWait_of_mem_submissions {skeleton : Probe} {i : Nat} {ps : List SentProbe} {a : Action}
    (ha : a ∈ Measurement.submissions skeleton i ps) : a.isWait = false := by
  induction ps generalizing i with
  | nil => cases ha
  | cons p ps ih =>
    rcases List.mem_cons.1 ha with rfl | ha
    · rfl
    · exact ih ha

theorem isWait_raise_of_finding? {target : IpAddr} {e : Event} {f : Finding}
    (h : e.finding? target = some f) : (raise f).isWait = false := by
  cases e <;> cases h <;> rfl

end Action

/-- A decision asks for one wait while the last probes are in flight, and for no other; once all
probes are sent it sends none. -/
theorem Measurement.Decision.outline {c : Config} {skeleton : Probe} {f : Finding} {l : Ledger}
    {turn : Turn σ} (hd : Decision c skeleton f l turn) (hle : l.settled ≤ c.count.toNat)
    (hf : (Action.raise f).isWait = false) :
    (turn.actions.countP Action.isWait =
        if c.count.toNat - c.window < l.settled ∧ l.settled < c.count.toNat then 1 else 0) ∧
      (c.count.toNat - c.window < l.settled → ∀ a ∈ turn.actions, a.isSubmit = false) ∧
      ∃ l', turn.measurement.ledger? = some l' ∧ l'.settled = l.settled := by
  have hf' : ¬(Action.raise f).isWait = true := by rw [hf]; exact Bool.false_ne_true
  by_cases hr : c.count.toNat - c.window < l.settled
  · rcases Nat.lt_or_eq_of_le hle with hlt | heq
    · obtain ⟨ha, hp⟩ := hd.wait hr hlt
      rw [ha, ledger?_of_running hp, if_pos ⟨hr, hlt⟩, List.countP_cons_of_neg hf']
      exact ⟨rfl, fun _ => by simp [Action.isSubmit], l, rfl, rfl⟩
    · obtain ⟨ha, hp⟩ := hd.finish heq
      rw [ha, ledger?_of_terminating hp, if_neg fun h => Nat.lt_irrefl _ (heq ▸ h.2),
        List.countP_cons_of_neg hf']
      exact ⟨rfl, fun _ => by simp [Action.isSubmit], l, rfl, rfl⟩
  · obtain ⟨p, ha, hp⟩ := hd.refill (Nat.not_lt.1 hr)
    rw [ha, ledger?_of_running hp, if_neg fun h => hr h.1, List.countP_cons_of_neg hf']
    exact ⟨rfl, fun h => absurd h hr, l.record p, rfl, rfl⟩

/-! ### Over a whole life -/

namespace Life

open Measurement

variable {carrier : Carrier σ} {c : Config} {x : Life}

/-- The number of events that settle a probe in flight when they come. -/
def hits (carrier : Carrier σ) : Life → List (Delivery σ) → Nat
  | _, [] => 0
  | x, d :: ds =>
    (if x.measurement.awaits d.event then 1 else 0) + hits carrier (x.next carrier d) ds

theorem measurement_after_of_isFinished (hx : x.measurement.stage.isFinished = true)
    (ds : List (Delivery σ)) : (x.after carrier ds).measurement = x.measurement := by
  refine after_invariant (P := fun y => y.measurement = x.measurement) rfl ?_ ds
  intro y d hy
  rw [next, hy, handle_of_isFinished hx]
  rfl

/-- **The number of probes settled is the number of events that settled one.** -/
theorem settled_after {l : Ledger} (ds : List (Delivery σ))
    (h : (x.after carrier ds).measurement.ledger? = some l) :
    l.settled = x.measurement.settledSoFar + hits carrier x ds := by
  induction ds generalizing x with
  | nil =>
    change x.measurement.ledger? = some l at h
    rw [settledSoFar, h]
    rfl
  | cons d ds ih =>
    have hd := ih (x := x.next carrier d) h
    cases hl : (x.next carrier d).measurement.ledger? with
    | none =>
      -- a measurement that has lost its ledger never has one again
      have hf := isFinished_stage_of_ledger? hl (handle_phase_ne_created _ _ _ _)
      rw [after_cons, measurement_after_of_isFinished hf ds, hl] at h
      cases h
    | some l₁ =>
      have h₁ := settled_of_handle hl
      rw [hd, hits, settledSoFar, hl, ← Nat.add_assoc, ← h₁]
      rfl

/-- The measurement keeps its window full, and the waits so far fit the number settled. -/
structure Paced (c : Config) (x : Life) : Prop where
  inStep : x.measurement.InStep c
  unborn : x.measurement.phase = .created → x.history = []
  waits : ∀ l, x.measurement.ledger? = some l →
    x.history.actions.countP Action.isWait =
      min l.settled (c.count.toNat - 1) - (c.count.toNat - c.window)
  waitsLast : Action.WaitsLast x.history.actions

theorem paced_begin (c : Config) (skeleton : Probe) (caller : Option InstanceId) :
    (begin c skeleton caller).Paced c where
  inStep := ⟨rfl, fun _ h => by simp [begin, new] at h, trivial⟩
  unborn _ := rfl
  waits _ h := by cases h
  waitsLast := .nil

theorem Paced.next (hx : x.Paced c) (hc : carrier.Obliging) (hv : c.validate = .ok ())
    (hroom : carrier.room c.count.toNat = true) (d : Delivery σ) :
    (x.next carrier d).Paced c := by
  have hb := handle_beat hc hv hroom hx.inStep d.event d.state
  have hin := hx.inStep.handle carrier d.event d.state
  have hun : (x.next carrier d).measurement.phase = .created → (x.next carrier d).history = [] :=
    fun h => (handle_phase_ne_created _ _ _ _ h).elim
  -- what is left are the waits, which each beat adds to
  suffices h : (∀ l, (x.next carrier d).measurement.ledger? = some l →
      (x.next carrier d).history.actions.countP Action.isWait =
        min l.settled (c.count.toNat - 1) - (c.count.toNat - c.window)) ∧
      Action.WaitsLast (x.next carrier d).history.actions from ⟨hin, hun, h.1, h.2⟩
  have hwc := c.window_le_count
  have hold := hx.waitsLast
  simp only [Life.next, History.actions, List.countP_append]
  generalize x.measurement.handle carrier d.event d.state = turn at hb
  cases hb with
  | @opened ps hp hn ha hp' hw =>
    have hno : ∀ a ∈ turn.actions, a.isWait = false := by
      rw [ha]
      exact List.forall_mem_cons.2 ⟨rfl, fun a hm => Action.isWait_of_mem_submissions hm⟩
    have hzero : turn.actions.countP Action.isWait = 0 :=
      List.countP_eq_zero.2 fun a hm => by rw [hno a hm]; exact Bool.false_ne_true
    rw [hx.unborn hp, hzero]
    refine ⟨?_, .append .nil (Action.waitsLast_of_no_wait hno) ?_⟩
    · intro l hl
      rw [ledger?_of_running hp', Ledger.recordAll_eq] at hl
      cases hl
      simp [History.actions, Ledger.empty]
    · intro a hm
      cases hm
  | @settled l l' q f hp hcl hf hd hw =>
    -- one more is settled, and the decision waits just when this is past the last refill
    obtain ⟨-, hlt⟩ := hx.inStep.running hp
    have hbefore := hx.waits l (ledger?_of_running hp)
    have hset := hcl.settled
    obtain ⟨hcount, hsub, l₂, hl₂, hset₂⟩ :=
      hd.outline (by omega) (Action.isWait_raise_of_finding? hf)
    refine ⟨?_, ?_⟩
    · intro l₁ hl₁
      obtain rfl := Option.some.inj (hl₂.symm.trans hl₁)
      rw [hset₂, hcount, hbefore]
      split <;> omega
    · by_cases hr : c.count.toNat - c.window < l'.settled
      · exact hold.append (Action.waitsLast_of_no_submit (hsub hr)) fun _ _ _ => hsub hr
      · -- so far there has been no wait
        rw [if_neg fun h => hr h.1] at hcount
        have hzero : x.history.actions.countP Action.isWait = 0 := by omega
        refine hold.append (Action.waitsLast_of_no_wait ?_) ?_
        · intro a hm
          exact Bool.eq_false_iff.2 (List.countP_eq_zero.1 hcount a hm)
        · intro a hm hwait
          exact (List.countP_eq_zero.1 hzero a hm hwait).elim
  | kept hp _ hm ha =>
    rw [hm, ha]
    exact ⟨fun l hl => hx.waits l hl, by rwa [List.append_nil]⟩
  | ended _ _ hl ha =>
    have hsub : ∀ a ∈ turn.actions, a.isSubmit = false := fun a hm => (ha a hm).1
    refine ⟨?_, hold.append (Action.waitsLast_of_no_submit hsub) fun _ _ _ => hsub⟩
    intro l h
    rw [hl] at h
    cases h

theorem paced_after (hc : carrier.Obliging) (hv : c.validate = .ok ())
    (hroom : carrier.room c.count.toNat = true) (skeleton : Probe) (caller : Option InstanceId)
    (ds : List (Delivery σ)) : ((begin c skeleton caller).after carrier ds).Paced c :=
  after_invariant (paced_begin c skeleton caller) (fun _ d h => h.next hc hv hroom d) ds

theorem sameTask_after (x : Life) (ds : List (Delivery σ)) :
    SameTask x.measurement (x.after carrier ds).measurement := by
  refine after_invariant (P := fun y => SameTask x.measurement y.measurement) ⟨rfl, rfl, rfl⟩ ?_ ds
  intro y d hy
  have h := handle_sameTask y.measurement carrier d.event d.state
  exact ⟨h.config.trans hy.config, h.skeleton.trans hy.skeleton, h.caller.trans hy.caller⟩

theorem isSome_ledger?_after (hc : carrier.Obliging) (hv : c.validate = .ok ())
    (hroom : carrier.room c.count.toNat = true) {ds : List (Delivery σ)} (hx : x.Paced c)
    (hl : x.measurement.ledger?.isSome = true) (hds : ∀ d ∈ ds, d.event.sent?.isSome = true) :
    (x.after carrier ds).measurement.ledger?.isSome = true := by
  induction ds generalizing x with
  | nil => exact hl
  | cons d ds ih =>
    obtain ⟨hd, hds⟩ := List.forall_mem_cons.1 hds
    refine ih (hx.next hc hv hroom d) ?_ hds
    have hb := handle_beat hc hv hroom hx.inStep d.event d.state
    simp only [Life.next]
    generalize x.measurement.handle carrier d.event d.state = turn at hb
    cases hb with
    | opened _ _ _ hp => rw [ledger?_of_running hp]; rfl
    | @settled l l' q f hp hcl hf hdec =>
      have hlt := (hx.inStep.running hp).2
      have hset := hcl.settled
      obtain ⟨-, -, l₂, hl₂, -⟩ := hdec.outline (by omega) (Action.isWait_raise_of_finding? hf)
      rw [hl₂]
      rfl
    | kept _ _ hm => rw [hm]; exact hl
    | ended _ hno =>
      rw [hno hl] at hd
      cases hd

theorem quiet_after (hc : carrier.Obliging) (hv : c.validate = .ok ())
    (hroom : carrier.room c.count.toNat = true) (hx : x.Paced c)
    (hp : x.measurement.phase ≠ .created) (hr : ∀ l, x.measurement.phase ≠ .running l)
    (ds : List (Delivery σ)) :
    ∃ as, (x.after carrier ds).history.actions = x.history.actions ++ as ∧
      ∀ a ∈ as, a.isSubmit = false ∧ a.isWait = false := by
  induction ds generalizing x with
  | nil => exact ⟨[], (List.append_nil _).symm, fun _ h => by cases h⟩
  | cons d ds ih =>
    have hb := handle_beat hc hv hroom hx.inStep d.event d.state
    have hstep : (∀ a ∈ (x.measurement.handle carrier d.event d.state).actions,
        a.isSubmit = false ∧ a.isWait = false) ∧
        ∀ l, (x.next carrier d).measurement.phase ≠ .running l := by
      simp only [Life.next]
      generalize x.measurement.handle carrier d.event d.state = turn at hb
      cases hb with
      | opened h => exact (hp h).elim
      | settled h => exact (hr _ h).elim
      | kept _ _ hm ha =>
        rw [ha, hm]
        exact ⟨fun a h => (List.not_mem_nil h).elim, hr⟩
      | ended _ _ hl ha =>
        refine ⟨ha, ?_⟩
        intro l h
        rw [ledger?_of_running h] at hl
        cases hl
    obtain ⟨as, has, hq⟩ := ih (hx.next hc hv hroom d) (handle_phase_ne_created _ _ _ _) hstep.2
    refine ⟨(x.measurement.handle carrier d.event d.state).actions ++ as, ?_, ?_⟩
    · exact has.trans (List.append_assoc ..)
    · intro a h
      exact (List.mem_append.1 h).elim (hstep.1 a) (hq a)

theorem handle_start_begin (hc : carrier.Obliging) (hv : c.validate = .ok ())
    (hroom : carrier.room c.count.toNat = true) (skeleton : Probe) (caller : Option InstanceId)
    (s : σ) :
    ∃ ps, ps.length = c.window ∧
      ((new c skeleton caller).handle carrier .start s).actions =
        .throwEvent caller .start :: submissions skeleton 1 ps ∧
      ((new c skeleton caller).handle carrier .start s).measurement.phase =
        .running (Ledger.empty.recordAll ps) := by
  have hb := handle_beat hc hv hroom (paced_begin c skeleton caller).inStep .start s
  simp only [begin] at hb
  generalize (new c skeleton caller).handle carrier .start s = turn at hb ⊢
  cases hb with
  | opened _ hn ha hp => exact ⟨_, hn, ha, hp⟩
  | settled hp => cases hp
  | kept hp => exact (hp rfl).elim
  | ended hs => exact (hs rfl rfl).elim

theorem Paced.decides (hx : x.Paced c) (hc : carrier.Obliging) (hv : c.validate = .ok ())
    (hroom : carrier.room c.count.toNat = true) {l : Ledger} {e : Event} {s : σ}
    (hp : x.measurement.phase = .running l) (ha : x.measurement.awaits e = true) :
    ∃ q f l', e.finding? c.target = some f ∧ l.Closes c.target e q l' ∧
      Decision c x.measurement.skeleton f l' (x.measurement.handle carrier e s) := by
  have hb := handle_beat hc hv hroom hx.inStep e s
  generalize x.measurement.handle carrier e s = turn at hb ⊢
  cases hb with
  | opened h => rw [hp] at h; cases h
  | settled h hcl hf hd =>
    rw [hp] at h
    cases h
    exact ⟨_, _, _, hf, hcl, hd⟩
  | kept _ h => rw [ha] at h; cases h
  | ended _ h =>
    -- an event about a probe in flight is an answer or a timeout
    rw [awaits, hp] at ha
    obtain ⟨q, -, hq⟩ := List.any_eq_true.1 ha
    obtain ⟨p, hp', -⟩ := Event.carries_iff.1 hq
    rw [h (by rw [ledger?_of_running hp]; rfl)] at hp'
    cases hp'

/-- At the end and ever after, the waits are one less than the window holds. -/
theorem Paced.waits_after (hx : x.Paced c) (hc : carrier.Obliging) (hv : c.validate = .ok ())
    (hroom : carrier.room c.count.toNat = true) {l : Ledger}
    (hp : x.measurement.phase = .terminating l) (ds : List (Delivery σ)) :
    (x.after carrier ds).history.actions.countP Action.isWait = c.window - 1 ∧
      Action.WaitsLast (x.after carrier ds).history.actions := by
  have hl : x.measurement.ledger? = some l := ledger?_of_terminating hp
  have hset := (hx.inStep.full hl).2.1 (by rw [stage, hp]; rfl)
  obtain ⟨as, has, hq⟩ := quiet_after hc hv hroom hx (by rw [hp]; exact Phase.noConfusion)
    (fun l' h => by rw [hp] at h; cases h) ds
  have hzero : as.countP Action.isWait = 0 :=
    List.countP_eq_zero.2 fun a hm => Bool.eq_false_iff.1 (hq a hm).2
  have hsub : ∀ a ∈ as, a.isSubmit = false := fun a hm => (hq a hm).1
  rw [has]
  refine ⟨?_, hx.waitsLast.append (Action.waitsLast_of_no_submit hsub) fun _ _ _ => hsub⟩
  have hpos := Config.count_pos_of_validate hv
  have hwpos := Config.window_pos hpos
  have hwc := c.window_le_count
  rw [List.countP_append, hzero, hx.waits l hl, hset]
  omega

/-- From `x` on, where nothing has happened yet, the measurement keeps its window full. -/
structure KeepsWindowFull (carrier : Carrier σ) (x : Life) : Prop where
  /-- What the history tells of the submissions is what the carrier answered. -/
  answered (ds : List (Delivery σ)) :
    (x.after carrier ds).history.Records carrier x.measurement.skeleton ds
  /-- At the start, as many probes are sent as the window holds, and the caller is told nothing
  else. -/
  start (s : σ) : ∃ ps, ps.length = x.measurement.config.window ∧
    (x.measurement.handle carrier .start s).actions =
      .throwEvent x.measurement.caller .start :: submissions x.measurement.skeleton 1 ps ∧
    (x.measurement.handle carrier .start s).measurement.phase =
      .running (Ledger.empty.recordAll ps)
  /-- From the start on, answers and timeouts never make the measurement fail. -/
  lasts (s : σ) (ds : List (Delivery σ)) : (∀ d ∈ ds, d.event.sent?.isSome = true) →
    (x.after carrier (⟨.start, s⟩ :: ds)).measurement.ledger?.isSome = true
  /-- The numbers sent and in flight follow from the number settled. -/
  full (ds : List (Delivery σ)) (l : Ledger) :
    (x.after carrier ds).measurement.ledger? = some l → l.Full x.measurement.config
  /-- The number settled is the number of events that settled a probe, and the end has come when
  this is the number of all probes. -/
  ends (ds : List (Delivery σ)) (l : Ledger) :
    (x.after carrier ds).measurement.ledger? = some l → l.settled = x.hits carrier ds ∧
      ((x.after carrier ds).measurement.stage = .terminating ↔
        x.hits carrier ds = x.measurement.config.count.toNat)
  /-- An event that settles a probe is followed by the decision that its number calls for. -/
  decides (ds : List (Delivery σ)) (l : Ledger) (e : Event) (s : σ) :
    (x.after carrier ds).measurement.phase = .running l →
      (x.after carrier ds).measurement.awaits e = true →
      ∃ q f l', e.finding? x.measurement.config.target = some f ∧
        l.Closes x.measurement.config.target e q l' ∧
        Decision x.measurement.config x.measurement.skeleton f l'
          ((x.after carrier ds).measurement.handle carrier e s)
  /-- Over a whole life that comes to its end, there is one wait less than the window holds, and
  nothing is sent after the first. -/
  waits (ds ds' : List (Delivery σ)) (l : Ledger) :
    (x.after carrier ds).measurement.phase = .terminating l →
      ((x.after carrier ds).after carrier ds').history.actions.countP Action.isWait =
        x.measurement.config.window - 1 ∧
      Action.WaitsLast ((x.after carrier ds).after carrier ds').history.actions

/-- **The window is always full.** Whatever the order in which probes are answered or time out, a
loop that accepts every probe sees the window filled at the start, refilled by one after each
settlement while there are probes left to send, and the end after as many settlements as probes
were asked for. -/
theorem window_always_full (c : Config) (skeleton : Probe) (caller : Option InstanceId)
    (carrier : Carrier σ) (hc : carrier.Obliging) (hv : c.validate = .ok ())
    (hroom : carrier.room c.count.toNat = true) :
    (begin c skeleton caller).KeepsWindowFull carrier := by
  have hx := fun ds => paced_after hc hv hroom skeleton caller ds
  have hstart := handle_start_begin hc hv hroom skeleton caller
  refine ⟨records_after c skeleton caller carrier, hstart, ?_,
    fun ds l hl => ((hx ds).inStep.full hl).1, ?_, ?_,
    fun ds ds' l hp => (hx ds).waits_after hc hv hroom hp ds'⟩
  · intro s ds hds
    obtain ⟨ps, -, -, hp⟩ := hstart s
    have hnext := (hx []).next hc hv hroom ⟨.start, s⟩
    rw [after_cons]
    refine isSome_ledger?_after hc hv hroom hnext ?_ hds
    show ((new c skeleton caller).handle carrier .start s).measurement.phase.ledger?.isSome = true
    rw [hp]
    rfl
  · intro ds l hl
    have hs : l.settled = hits carrier (begin c skeleton caller) ds := by
      rw [settled_after ds hl]
      exact Nat.zero_add _
    rw [← hs]
    exact ⟨rfl, ((hx ds).inStep.full hl).2⟩
  · intro ds l e s hp ha
    have hd := (hx ds).decides hc hv hroom (s := s) hp ha
    rw [(sameTask_after (begin c skeleton caller) ds).skeleton] at hd
    exact hd

/-- Five probes with room for three at once, which time out in disorder. -/
def disorderly : List (Delivery Nat) :=
  let late (id state : Nat) : Delivery Nat := ⟨.timeout ⟨id, .empty⟩, state⟩
  [⟨.start, 0⟩, late 2 3, late 0 4, late 1 5, late 4 5, late 3 5]

theorem window_full_in_disorder :
    Carrier.counting.Obliging ∧
      Config.validate { target := .v4 1, count := 5 } = .ok () ∧
      Carrier.counting.room (5 : UInt64).toNat = true ∧
      (begin { target := .v4 1, count := 5 } .empty none).KeepsWindowFull .counting ∧
      ∃ l, ((begin { target := .v4 1, count := 5 } .empty none).after .counting
          disorderly).measurement.phase = .terminating l ∧
        ((begin { target := .v4 1, count := 5 } .empty none).after .counting
          disorderly).history.actions.countP Action.isWait = 2 :=
  ⟨Carrier.counting_obliging, rfl, rfl,
    window_always_full { target := .v4 1, count := 5 } .empty none .counting
      Carrier.counting_obliging rfl rfl,
    _, rfl, by decide +kernel⟩

end Life

end EchoProbe
