import EchoProbe.Proofs.Lifecycle

/-!
# How a measurement fails

A measurement fails over an event that it cannot handle, over a configuration that cannot drive it
and over a probe that its loop refuses. It may have settled a probe, told the caller of it and sent
others by then.

* `Failure` is a failure as the loop sees it, and `Failure.turn` the answer that comes with it;
* `Measurement.Breakdown` lists the failures that there can be, each with what was asked of the
  loop before;
* `Measurement.handle_eq_turn_iff` says that these come about, and no others;
* `Life.fails_cleanly` : **every failure is clean**: the ledger is gone, the task is what it was,
  and that the measurement has failed is the last thing the loop is told, and told once.
-/

namespace EchoProbe

variable {σ : Type}

/-- A failure over an event. -/
structure Failure (σ : Type) where
  /-- The cause. -/
  cause : Error
  /-- What was asked of the loop before it is told of the failure, in order. -/
  before : List Action
  /-- The number of probes that might have been in flight at once, once it is known. -/
  window : Nat
  /-- The state of the loop. -/
  state : σ

/-- The answer of a measurement that fails: of what it knew, it keeps the window and its task. -/
def Failure.turn (m : Measurement) (x : Failure σ) : Turn σ :=
  ⟨{ m with window := x.window, phase := .errored }, x.state, x.before ++ [.raiseError],
    some x.cause⟩

theorem Failure.turn_injective (m : Measurement) :
    Function.Injective (Failure.turn m : Failure σ → Turn σ) := by
  rintro ⟨cause, before, window, state⟩ ⟨cause', before', window', state'⟩ h
  obtain ⟨hm, hs, ha, hc⟩ := Turn.mk.inj h
  obtain rfl : window = window' := congrArg Measurement.window hm
  obtain rfl : state = state' := hs
  obtain rfl : before = before' := List.append_cancel_right ha
  obtain rfl : cause = cause' := Option.some.inj hc
  rfl

namespace Measurement

variable {m : Measurement} {carrier : Carrier σ} {e : Event} {s : σ}

/-- The failures of a measurement over an event. -/
inductive Breakdown (m : Measurement) (carrier : Carrier σ) (e : Event) (s : σ) :
    Failure σ → Prop
  /-- The measurement is told to give up. -/
  | aborted : m.stage.isFinished = false → e = .error →
      Breakdown m carrier e s ⟨.aborted, [], m.window, s⟩
  /-- The event is out of place. -/
  | misplaced : m.stage.handles e.type = false →
      Breakdown m carrier e s ⟨.invalidState m.stage e.type, [], m.window, s⟩
  /-- The configuration has a defect. -/
  | invalid {d : Defect} : m.phase = .created → e = .start → m.config.defect? = some d →
      Breakdown m carrier e s ⟨.invalidOptions d, [], 0, s⟩
  /-- There is no room for so many probes. -/
  | crowded : m.phase = .created → e = .start → m.config.defect? = none →
      carrier.room m.config.count.toNat = false →
      Breakdown m carrier e s ⟨.allocationFailure, [], 0, s⟩
  /-- A probe is refused while the window is being filled: the caller has been told of the start,
  and some probes have been accepted. -/
  | startRefused {ps : List SentProbe} {s₁ s₂ : σ} {cause : Error} :
      m.phase = .created → e = .start → m.config.defect? = none →
      carrier.room m.config.count.toNat = true →
      Accepts carrier m.skeleton 1 s ps s₁ → ps.length < m.config.window →
      carrier.submit s₁ (copy m.skeleton (1 + ps.length)) = (.error cause, s₂) →
      Breakdown m carrier e s
        ⟨cause, .throwEvent m.caller .start :: (submissions m.skeleton 1 ps ++
          [.submit (copy m.skeleton (1 + ps.length)) none]), m.config.window, s₂⟩
  /-- The probe that is to take the place of a settled one is refused: the caller has been told of
  the settlement. -/
  | refillRefused {l : Ledger} {p q : SentProbe} {f : Finding} {s₁ : σ} {cause : Error} :
      m.phase = .running l → e.sent? = some p → q ∈ l.inFlight → q.id = p.id →
      l.sent.size < m.config.count.toNat →
      e.finding? m.config.target = some f → f.sent? = some p →
      carrier.submit s (copy m.skeleton 1) = (.error cause, s₁) →
      Breakdown m carrier e s
        ⟨cause, [.raise f, .submit (copy m.skeleton 1) none], m.window, s₁⟩

/-- Before it is told of the failure, the loop is asked neither to note one nor to stop the
measurement, and the caller is told neither to wait nor that all probes are settled. -/
theorem Breakdown.before_quiet {x : Failure σ} (h : Breakdown m carrier e s x) :
    ∀ a ∈ x.before, a.isFailure = false ∧ a.isWait = false ∧ a.isClosing = false := by
  intro a ha
  cases h with
  | aborted => cases ha
  | misplaced => cases ha
  | invalid => cases ha
  | crowded => cases ha
  | startRefused =>
    rcases List.mem_cons.1 ha with rfl | ha
    · exact ⟨rfl, rfl, rfl⟩
    · rcases List.mem_append.1 ha with ha | ha
      · have hr := Action.isRoutine_of_mem_submissions ha
        exact ⟨Action.isFailure_eq_false_of_isRoutine hr, Action.isWait_of_mem_submissions ha,
          Action.isClosing_eq_false_of_isRoutine hr⟩
      · obtain rfl := List.mem_singleton.1 ha
        exact ⟨rfl, rfl, rfl⟩
  | refillRefused _ _ _ _ _ hf =>
    have hr := Action.isRoutine_raise_of_finding? hf
    rcases List.mem_cons.1 ha with rfl | ha
    · exact ⟨rfl, Action.isWait_raise_of_finding? hf, Action.isClosing_eq_false_of_isRoutine hr⟩
    · obtain rfl := List.mem_singleton.1 ha
      exact ⟨rfl, rfl, rfl⟩

/-! ### Each of them comes about -/

theorem handle_of_misplaced (h : m.stage.handles e.type = false) :
    m.handle carrier e s = m.fail s [] (.invalidState m.stage e.type) := by
  cases hp : m.phase <;> cases e <;>
    simp_all [handle, stage, Phase.stage, Stage.handles, Event.type]

theorem handle_of_aborted (h : m.stage.isFinished = false) :
    m.handle carrier .error s = m.fail s [] .aborted := by
  cases hp : m.phase <;> simp_all [handle, stage, Phase.stage, Stage.isFinished]

theorem handle_start_of_created (h : m.phase = .created) :
    m.handle carrier .start s = m.start carrier s := by
  simp only [handle, h]

/-- A settlement while there are probes left to send is followed by one copy. -/
theorem handle_refill (hm : m.InStep m.config) {l : Ledger} (hp : m.phase = .running l)
    {f : Finding} (hf : e.finding? m.config.target = some f) {q : SentProbe}
    (hq : q ∈ l.inFlight) (hc : e.carries q = true) (hlt : l.sent.size < m.config.count.toNat)
    (carrier : Carrier σ) (s : σ) :
    ∃ l', m.handle carrier e s = m.conclude [.raise f] (sendFrom carrier m.skeleton 1 1 l' s) := by
  cases hcl : l.close? m.config.target e with
  | none =>
    rw [Ledger.close?_eq_none_iff.1 hcl q hq] at hc
    cases hc
  | some l' =>
    obtain ⟨q', hq'⟩ := Ledger.closes_of_close? hcl
    obtain ⟨hfull, hset⟩ := hm.running hp
    have hre := reopened_of_closes hfull hset hq'
    have hsent := hfull.sent
    have hsettled := hq'.settled
    refine ⟨l', ?_⟩
    rw [handle_of_close? hp hcl hf, schedule_refill rfl (hm.window l hp) hre (by omega)]

theorem Breakdown.handle (hm : m.InStep m.config) (hw : m.phase = .created → m.window = 0)
    {x : Failure σ} (h : Breakdown m carrier e s x) : m.handle carrier e s = x.turn m := by
  cases h with
  | aborted hst he =>
    rw [he, handle_of_aborted hst]
    rfl
  | misplaced hst => exact handle_of_misplaced hst
  | invalid hp he hd =>
    rw [he, handle_start_of_created hp, start, Config.validate_eq_error_iff.2 ⟨_, hd, rfl⟩,
      ← hw hp]
    rfl
  | crowded hp he hd hl =>
    rw [he, handle_start_of_created hp, start, Config.validate_eq_ok_iff.2 hd, hl, ← hw hp]
    rfl
  | startRefused hp he hd hl ha hn hr =>
    have hv := Config.validate_eq_ok_iff.2 hd
    have hs := schedule_empty (m := { m with window := m.config.window }) rfl rfl
      (Config.count_pos_of_validate hv) carrier s
    rw [sendFrom_of_refused ha hn hr] at hs
    rw [he, handle_start_of_created hp, start, hv, hl]
    simp only [hs]
    rfl
  | refillRefused hp he hq hid hlt hf _ hr =>
    have hc := Event.carries_iff.2 ⟨_, he, hid.symm⟩
    obtain ⟨l', h⟩ := handle_refill hm hp hf hq hc hlt carrier s
    rw [h, sendFrom_of_refused (.nil 1 s) Nat.one_pos hr]
    rfl

/-! ### And no others -/

theorem exists_breakdown (hm : m.InStep m.config) {cause : Error}
    (h : (m.handle carrier e s).failure = some cause) :
    ∃ x, Breakdown m carrier e s x := by
  have hr := handle_reaction m carrier e s
  generalize m.handle carrier e s = turn at hr h
  cases hr with
  | finished => cases h
  | dropped => cases h
  | late => cases h
  | stopped => cases h
  | aborted hst he => exact ⟨_, .aborted hst he⟩
  | misplaced hst => exact ⟨_, .misplaced hst⟩
  | invalid hp he hv =>
    obtain ⟨d, hd, -⟩ := Config.validate_eq_error_iff.1 hv
    exact ⟨_, .invalid hp he hd⟩
  | crowded hp he hv hl => exact ⟨_, .crowded hp he (Config.validate_eq_ok_iff.1 hv) hl⟩
  | started hp he hv hl =>
    rw [failure_conclude] at h
    obtain ⟨ps, s₁, s₂, ha, hn, hs⟩ := exists_of_schedule_failure h
    -- what is due at the start is what the window holds
    have hdue : due { m with window := m.config.window } .empty ≤ m.config.window :=
      Nat.le_trans (Nat.min_le_right _ _) (Nat.sub_le _ _)
    exact ⟨_, .startRefused hp he (Config.validate_eq_ok_iff.1 hv) hl ha
      (Nat.lt_of_lt_of_le hn hdue) hs⟩
  | @settled l l' f hp hcl hf =>
    rw [failure_conclude] at h
    obtain ⟨ps, s₁, s₂, ha, hn, hs⟩ := exists_of_schedule_failure h
    obtain ⟨q, hq⟩ := Ledger.closes_of_close? hcl
    obtain ⟨p, he, hid⟩ := Event.carries_iff.1 hq.carries
    obtain ⟨hfull, hset⟩ := hm.running hp
    have hre := reopened_of_closes hfull hset hq
    -- one copy is due, so that none has been accepted
    have hone : m.due l' = 1 := by
      by_cases hr : m.config.count.toNat - m.config.window < l'.settled
      · rw [due_drain rfl hre hr] at hn
        exact (Nat.not_lt_zero _ hn).elim
      · exact due_refill rfl (hm.window l hp) hre (Nat.not_lt.1 hr)
    rw [hone] at hn
    obtain rfl : ps = [] := List.eq_nil_of_length_eq_zero (Nat.lt_one_iff.1 hn)
    cases ha
    have hlt : m.due l' ≤ m.config.count.toNat - l'.sent.size := Nat.min_le_left _ _
    rw [hq.sent] at hlt
    exact ⟨_, .refillRefused hp he (hq.inFlight.mem_iff.2 List.mem_cons_self) hid.symm (by omega) hf
      ((Event.sent?_of_finding? hf).trans he) hs⟩

/-- **The failures over an event are those listed.** -/
theorem handle_eq_turn_iff (hm : m.InStep m.config) (hw : m.phase = .created → m.window = 0)
    {x : Failure σ} : m.handle carrier e s = x.turn m ↔ Breakdown m carrier e s x := by
  refine ⟨?_, fun h => h.handle hm hw⟩
  intro h
  have hf : (m.handle carrier e s).failure = some x.cause := by rw [h]; rfl
  obtain ⟨y, hy⟩ := exists_breakdown hm hf
  have hxy := Failure.turn_injective m (h.symm.trans (hy.handle hm hw))
  rwa [hxy]

/-- The measurement does not fail over the event unless it fails in one of the ways listed, and
leaves nothing behind then. -/
structure FailsCleanly (carrier : Carrier σ) (m : Measurement) (e : Event) (s : σ) : Prop where
  /-- The failures are those listed. -/
  listed (x : Failure σ) : m.handle carrier e s = x.turn m ↔ Breakdown m carrier e s x
  /-- Of a failure the loop is told once, after everything else, and in the same step it is not
  asked to stop the measurement, nor is the caller told to wait or that all is settled. -/
  told (cause : Error) : (m.handle carrier e s).failure = some cause →
    ∃ x : Failure σ, m.handle carrier e s = x.turn m ∧ x.cause = cause ∧
      ∀ a ∈ x.before, a.isFailure = false ∧ a.isWait = false ∧ a.isClosing = false
  /-- The measurement has failed for good, without a ledger, and its task is what it was. -/
  released (cause : Error) : (m.handle carrier e s).failure = some cause →
    (m.handle carrier e s).measurement.stage = .errored ∧
      (m.handle carrier e s).measurement.ledger? = none ∧
      SameTask m (m.handle carrier e s).measurement
  /-- Unless there is a failure, the loop is told of none. -/
  silent : (m.handle carrier e s).failure = none →
    ∀ a ∈ (m.handle carrier e s).actions, a.isFailure = false

theorem not_isFailure_of_failure_eq_none (h : (m.handle carrier e s).failure = none) :
    ∀ a ∈ (m.handle carrier e s).actions, a.isFailure = false := by
  intro a ha
  cases hst : m.stage.isFinished with
  | true =>
    rw [handle_of_isFinished hst] at ha
    cases ha
  | false =>
    by_contra hf
    have herr := ((handle_passage m carrier e s).failure_iff hst).1 ⟨a, ha, by simpa using hf⟩
    have hsome := (isSome_failure_iff hst s).2 herr
    rw [h] at hsome
    cases hsome

end Measurement

/-- Accepts three probes and no more. -/
def Carrier.sparing : Carrier Nat :=
  ⟨.ample, fun n p =>
    if n < 3 then (.ok ⟨n, p⟩, n + 1) else (.error (.sendFailure "network down"), n)⟩

namespace Life

open Measurement

theorem window_eq_zero_after (c : Config) (skeleton : Probe) (caller : Option InstanceId)
    (carrier : Carrier σ) (ds : List (Delivery σ)) :
    ((begin c skeleton caller).after carrier ds).measurement.phase = .created →
      ((begin c skeleton caller).after carrier ds).measurement.window = 0 := by
  refine after_invariant (P := fun x => x.measurement.phase = .created →
    x.measurement.window = 0) (fun _ => rfl) ?_ ds
  intro x d _ h
  exact (handle_phase_ne_created _ _ _ _ h).elim

/-- A measurement keeps its window full as long as it lasts. -/
theorem inStep_after (c : Config) (skeleton : Probe) (caller : Option InstanceId)
    (carrier : Carrier σ) (ds : List (Delivery σ)) :
    ((begin c skeleton caller).after carrier ds).measurement.InStep c :=
  after_invariant (P := fun x => x.measurement.InStep c) (paced_begin c skeleton caller).inStep
    (fun _ d h => h.handle carrier d.event d.state) ds

/-- **Every failure is clean.** Whatever has happened to a measurement, and whatever the next event
is, it fails in one of the ways listed or not at all. A failure is the last thing that its loop is
told of, and it is told once; the ledger is gone, and the task is what it was. -/
theorem fails_cleanly (c : Config) (skeleton : Probe) (caller : Option InstanceId)
    (carrier : Carrier σ) (ds : List (Delivery σ)) (e : Event) (s : σ) :
    ((begin c skeleton caller).after carrier ds).measurement.FailsCleanly carrier e s := by
  have hc := inStep_after c skeleton caller carrier ds
  have hm : ((begin c skeleton caller).after carrier ds).measurement.InStep
      ((begin c skeleton caller).after carrier ds).measurement.config := by
    rw [hc.config]
    exact hc
  have hw := window_eq_zero_after c skeleton caller carrier ds
  have hfail : ∀ cause, (((begin c skeleton caller).after carrier ds).measurement.handle carrier e
      s).failure = some cause → ∃ x, Breakdown
        ((begin c skeleton caller).after carrier ds).measurement carrier e s x :=
    fun cause h => exists_breakdown hm h
  refine ⟨fun x => handle_eq_turn_iff hm hw, ?_, ?_, not_isFailure_of_failure_eq_none⟩
  · intro cause h
    obtain ⟨x, hx⟩ := hfail cause h
    have hturn := hx.handle hm hw
    rw [hturn] at h
    exact ⟨x, hturn, Option.some.inj h, hx.before_quiet⟩
  · intro cause h
    obtain ⟨x, hx⟩ := hfail cause h
    rw [hx.handle hm hw]
    exact ⟨rfl, rfl, rfl, rfl, rfl⟩

theorem fails_cleanly_over_refill :
    ((begin { target := .v4 1, count := 4 } .empty none).after .sparing
        [⟨.start, 0⟩]).measurement.FailsCleanly .sparing (.timeout ⟨1, .empty⟩) 3 ∧
      (((begin { target := .v4 1, count := 4 } .empty none).after .sparing
        [⟨.start, 0⟩]).measurement.handle .sparing (.timeout ⟨1, .empty⟩) 3).failure =
          some (.sendFailure "network down") ∧
      (((begin { target := .v4 1, count := 4 } .empty none).after .sparing
        [⟨.start, 0⟩]).measurement.handle .sparing (.timeout ⟨1, .empty⟩) 3).actions.length = 3 :=
  ⟨fails_cleanly { target := .v4 1, count := 4 } .empty none .sparing [⟨.start, 0⟩]
      (.timeout ⟨1, .empty⟩) 3,
    by decide +kernel, by decide +kernel⟩

end Life

end EchoProbe
