import EchoProbe.Measurement.Instance
import EchoProbe.Proofs.Turn

/-!
# Where the ledger is kept

An instance keeps its stage in one place and its ledger in another, and takes the ledger out while
it works on it. What it does nevertheless is what a measurement does whose phase holds both.

* `Instance.Burst` and `Instance.Upshot` list what a burst and a decision come to when there may
  be no memory for a record, and `Instance.Response` what an event comes to;
* `Instance.Sound` says that the ledger is there while the instance runs or is about to end, and at
  no other time, and `Instance.Sound.handle` that no event changes this;
* `Measurement.toInstance` takes a phase apart, and `Instance.handle_toInstance` says that **with
  memory for every record an instance does what the measurement does**.
-/

namespace EchoProbe

variable {σ : Type}

namespace Instance

open Measurement

variable {loop : Loop σ}

/-! ### Decisions -/

/-- What becomes of a burst. -/
inductive Burst (loop : Loop σ) (i n : Nat) (l : Ledger) (x : Scene σ) : Step σ → Prop
  /-- All copies are sent. -/
  | sent {ps : List SentProbe} {s : σ} :
      Accepts loop.toCarrier x.self.skeleton i x.state ps s → ps.length = n →
      Burst loop i n l x
        ⟨x.proceed s (submissions x.self.skeleton i ps), l.recordAll ps, none⟩
  /-- There is no memory for the record of a copy. -/
  | cramped {ps : List SentProbe} {s : σ} :
      Accepts loop.toCarrier x.self.skeleton i x.state ps s → ps.length < n →
      loop.sparesProbe s = false →
      Burst loop i n l x ⟨x.proceed s (submissions x.self.skeleton i ps), l.recordAll ps,
        some .allocationFailure⟩
  /-- A copy is refused. -/
  | refused {ps : List SentProbe} {s₁ s₂ : σ} {cause : Error} :
      Accepts loop.toCarrier x.self.skeleton i x.state ps s₁ → ps.length < n →
      loop.submit s₁ (copy x.self.skeleton (i + ps.length)) = (.error cause, s₂) →
      Burst loop i n l x ⟨x.proceed s₂ (submissions x.self.skeleton i ps ++
        [.submit (copy x.self.skeleton (i + ps.length)) none]), l.recordAll ps, some cause⟩

theorem Burst.cons {i n : Nat} {l : Ledger} {x : Scene σ} {p : SentProbe} {s : σ} {step : Step σ}
    (hp : loop.submit x.state (copy x.self.skeleton i) = (.ok p, s))
    (h : Burst loop (i + 1) n (l.record p)
      (x.proceed s [.submit (copy x.self.skeleton i) (some p)]) step) :
    Burst loop i (n + 1) l x step := by
  cases h with
  | sent ha hn =>
    rw [Scene.proceed_proceed]
    exact .sent (.cons hp ha) (congrArg (· + 1) hn)
  | cramped ha hn hm =>
    rw [Scene.proceed_proceed]
    exact .cramped (.cons hp ha) (Nat.succ_lt_succ hn) hm
  | @refused ps s₁ s₂ cause ha hn hr =>
    have hi : i + 1 + ps.length = i + (p :: ps).length := by
      rw [List.length_cons]; omega
    rw [hi] at hr
    rw [Scene.proceed_proceed, hi]
    exact .refused (.cons hp ha) (Nat.succ_lt_succ hn) hr

/-- **Every burst is one of those listed.** -/
theorem sendProbes_burst (loop : Loop σ) (i n : Nat) (l : Ledger) (x : Scene σ) :
    Burst loop i n l x (sendProbes loop i n l x) := by
  induction n generalizing i l x with
  | zero =>
    have h : Burst loop i 0 l x ⟨x.proceed x.state [], l, none⟩ := .sent (.nil i x.state) rfl
    rwa [Scene.proceed_nil] at h
  | succ n ih =>
    rw [sendProbes]
    cases hm : loop.sparesProbe x.state with
    | false =>
      have h : Burst loop i (n + 1) l x ⟨x.proceed x.state [], l, some .allocationFailure⟩ :=
        .cramped (.nil i x.state) (Nat.succ_pos n) hm
      rwa [Scene.proceed_nil] at h
    | true =>
      rcases hp : loop.submit x.state (copy x.self.skeleton i) with ⟨cause | p, s⟩
      · exact .refused (.nil i x.state) (Nat.succ_pos n) hp
      · exact (ih (i + 1) (l.record p) _).cons hp

/-- What a decision may come to. -/
inductive Upshot (loop : Loop σ) (l : Ledger) (x : Scene σ) : Step σ → Prop
  /-- Something is due. -/
  | burst {n : Nat} {step : Step σ} : Burst loop 1 n l x step → Upshot loop l x step
  /-- All probes are settled. -/
  | finished : l.inFlight = [] → Upshot loop l x
      ⟨{ x.proceed x.state [.raise (.allProbesSent l.summary), .raiseTerminated] with
        self := { x.self with stage := .terminating } }, l, none⟩
  /-- Nothing is due, but some probes are in flight. -/
  | waited : l.inFlight ≠ [] → Upshot loop l x ⟨x.proceed x.state [.raise .wait], l, none⟩

/-- **Every decision is one of those listed.** -/
theorem schedule_upshot (loop : Loop σ) (l : Ledger) (x : Scene σ) :
    Upshot loop l x (schedule loop l x) := by
  unfold schedule
  dsimp only
  split
  · exact .burst (sendProbes_burst loop 1 _ l x)
  · split
    · rename_i hl
      rw [Scene.ask_ask]
      exact .finished (List.isEmpty_iff.1 hl)
    · rename_i hl
      exact .waited fun h => hl (List.isEmpty_iff.2 h)

/-! ### What an event comes to -/

/-- What becomes of a reply or a timeout when the ledger has been taken out for it. -/
inductive Intake (loop : Loop σ) (e : Event) (l : Ledger) (x : Scene σ) : Step σ → Prop
  /-- There is no memory for the round trip time. -/
  | lacking : (e.sample? x.self.config.target).isSome = true → loop.sparesSample x.state = false →
      Intake loop e l x ⟨x, l, some .allocationFailure⟩
  /-- The probe is not in flight. -/
  | dropped : l.close? x.self.config.target e = none → Intake loop e l x ⟨x, l, none⟩
  /-- A probe in flight is settled. -/
  | settled {l' : Ledger} {f : Finding} : l.close? x.self.config.target e = some l' →
      e.finding? x.self.config.target = some f →
      Intake loop e l x (schedule loop l' (x.ask (.raise f)))

theorem onReply_intake (loop : Loop σ) (r : Exchange) (l : Ledger) (x : Scene σ) :
    Intake loop (.reply r) l x (onReply loop r l x) := by
  have hsample : (Event.reply r).sample? x.self.config.target =
      if classify x.self.config.target r.reply = .reached then r.roundTrip? else none := rfl
  unfold onReply recordReply
  dsimp only
  rw [← hsample]
  cases hm : ((Event.reply r).sample? x.self.config.target).isSome &&
      !loop.sparesSample x.state with
  | true =>
    rw [Bool.and_eq_true, Bool.not_eq_true'] at hm
    exact .lacking hm.1 hm.2
  | false =>
    cases hc : l.settleReply? r.sent ((Event.reply r).sample? x.self.config.target) with
    | none => exact .dropped hc
    | some l' => exact .settled hc rfl

theorem onTimeout_intake (loop : Loop σ) (p : SentProbe) (l : Ledger) (x : Scene σ) :
    Intake loop (.timeout p) l x (onTimeout loop p l x) := by
  unfold onTimeout
  cases hc : l.settleTimeout? p with
  | none => exact .dropped hc
  | some l' => exact .settled hc rfl

/-- The failures over an event that come before anything is done. -/
inductive Mishap (loop : Loop σ) (i : Instance) (e : Event) : Error → Prop
  /-- The instance is told to give up. -/
  | aborted : e = .error → Mishap loop i e .aborted
  /-- The event is out of place. -/
  | misplaced : i.stage.handles e.type = false → Mishap loop i e (.invalidState i.stage e.type)
  /-- The ledger is missing. -/
  | missing : i.stage = .running → e.sent?.isSome = true → i.data = none →
      Mishap loop i e (.invalidState i.stage e.type)
  /-- The configuration cannot drive a measurement. -/
  | invalid {cause : Error} : i.stage = .created → e = .start →
      i.config.validate = .error cause → Mishap loop i e cause
  /-- There is no room for so many probes. -/
  | crowded : i.stage = .created → e = .start → i.config.validate = .ok () →
      loop.room i.config.count.toNat = false → Mishap loop i e .allocationFailure

theorem Mishap.ne_terminated {i : Instance} {e : Event} {cause : Error}
    (h : Mishap loop i e cause) : e ≠ .terminated := by
  rintro rfl
  cases h with
  | aborted h => cases h
  | misplaced h => cases hst : i.stage <;> rw [hst] at h <;> cases h
  | missing _ h => cases h
  | invalid _ h => cases h
  | crowded _ h => cases h

/-- Replies and timeouts are in place where the ledger is. -/
theorem Mishap.not_of_data {i : Instance} {e : Event} {cause : Error}
    (hst : i.stage = .running ∨ i.stage = .terminating) (hd : i.data.isSome = true)
    (he : e.sent?.isSome = true) : ¬Mishap loop i e cause := by
  intro h
  cases h with
  | aborted h => rw [h] at he; cases he
  | misplaced h => rw [Stage.handles_of_sent? hst he] at h; cases h
  | missing _ _ h => rw [h] at hd; cases hd
  | invalid _ h => rw [h] at he; cases he
  | crowded _ h => rw [h] at he; cases he

/-- An instance that starts, after the caller has been told so. -/
def opening (i : Instance) (s : σ) : Scene σ :=
  ⟨{ i with window := i.config.window, stage := .running }, s, [.throwEvent i.caller .start]⟩

/-- What an event may come to. -/
inductive Response (loop : Loop σ) (i : Instance) (e : Event) (s : σ) :
    Scene σ × Option Error → Prop
  /-- The end has come before. -/
  | finished : i.stage.isFinished = true → Response loop i e s (⟨i, s, []⟩, none)
  /-- There is a failure before anything is done. -/
  | failed {cause : Error} : i.stage.isFinished = false → Mishap loop i e cause →
      Response loop i e s (fail ⟨i, s, []⟩, some cause)
  /-- The instance starts. -/
  | started : i.stage = .created → e = .start → i.config.validate = .ok () →
      Response loop i e s (conclude (schedule loop .empty (i.opening s)).putBack)
  /-- The ledger is taken out, worked on and put back. -/
  | handled {l : Ledger} {step : Step σ} : i.stage = .running → i.data = some l →
      e.sent?.isSome = true → Intake loop e l ⟨{ i with data := none }, s, []⟩ step →
      Response loop i e s (conclude step.putBack)
  /-- All probes are settled. -/
  | late : i.stage = .terminating → e.sent?.isSome = true →
      Response loop i e s (⟨i, s, []⟩, none)
  /-- The instance is stopped. -/
  | stopped : i.stage.isFinished = false → e = .terminated →
      Response loop i e s (onTerminated ⟨i, s, []⟩, none)

theorem withData_response {i : Instance} {e : Event} {s : σ} {step : Ledger → Scene σ → Step σ}
    (hi : i.stage = .running) (he : e.sent?.isSome = true)
    (hstep : ∀ l, Intake loop e l ⟨{ i with data := none }, s, []⟩
      (step l ⟨{ i with data := none }, s, []⟩)) :
    Response loop i e s (conclude (withData e.type step ⟨i, s, []⟩)) := by
  unfold withData
  cases hd : i.data with
  | none => exact .failed (by rw [hi]; rfl) (.missing hi he hd)
  | some l => exact .handled hi hd he (hstep l)

theorem onStart_response {i : Instance} (hi : i.stage = .created) (s : σ) :
    Response loop i .start s (conclude (onStart loop ⟨i, s, []⟩)) := by
  have hfin : i.stage.isFinished = false := by rw [hi]; rfl
  unfold onStart
  dsimp only
  split
  · rename_i hv
    exact .failed hfin (.invalid hi rfl hv)
  · rename_i hv hroom
    exact .failed hfin (.crowded hi rfl hv hroom)
  · rename_i hv hroom
    exact .started hi rfl hv

/-- **The answers to an event are those listed.** -/
theorem handle_response (loop : Loop σ) (i : Instance) (e : Event) (s : σ) :
    Response loop i e s (handle loop i e s) := by
  unfold handle
  cases hfin : i.stage.isFinished with
  | true => exact .finished hfin
  | false =>
    show Response loop i e s (conclude (respond loop e ⟨i, s, []⟩))
    fun_cases respond loop e ⟨i, s, []⟩ with
    | case1 hi => exact onStart_response hi s
    | case2 r hi => exact withData_response hi rfl fun l => onReply_intake loop r l _
    | case3 p hi => exact withData_response hi rfl fun l => onTimeout_intake loop p l _
    | case4 r hi => exact .late hi rfl
    | case5 p hi => exact .late hi rfl
    | case6 => exact .stopped hfin rfl
    | case7 => exact .failed hfin (.aborted rfl)
    | case8 =>
      refine .failed hfin (.misplaced ?_)
      cases hi : i.stage <;> cases e <;> simp_all [Stage.handles, Event.type, Stage.isFinished]

/-! ### Where the ledger is -/

/-- The ledger is in its place while the instance runs or is about to end, and at no other time. -/
def Sound (i : Instance) : Prop :=
  i.data.isSome = true ↔ i.stage = .running ∨ i.stage = .terminating

theorem sound_new (c : Config) (skeleton : Probe) (caller : Option InstanceId) :
    (new c skeleton caller).Sound :=
  iff_of_false Bool.false_ne_true fun h => h.elim Stage.noConfusion Stage.noConfusion

theorem Burst.self {i n : Nat} {l : Ledger} {x : Scene σ} {step : Step σ}
    (h : Burst loop i n l x step) : step.scene.self = x.self := by
  cases h <;> rfl

theorem Upshot.self {l : Ledger} {x : Scene σ} {step : Step σ} (h : Upshot loop l x step) :
    step.scene.self = x.self ∨ step.scene.self = { x.self with stage := .terminating } := by
  cases h with
  | burst h => exact .inl h.self
  | finished => exact .inr rfl
  | waited => exact .inl rfl

theorem Intake.self {e : Event} {l : Ledger} {x : Scene σ} {step : Step σ}
    (h : Intake loop e l x step) :
    step.scene.self = x.self ∨ step.scene.self = { x.self with stage := .terminating } := by
  cases h with
  | lacking => exact .inl rfl
  | dropped => exact .inl rfl
  | settled => exact (schedule_upshot loop _ _).self

theorem sound_fail (x : Scene σ) : (fail x).self.Sound :=
  iff_of_false Bool.false_ne_true fun h => h.elim Stage.noConfusion Stage.noConfusion

/-- When the ledger is put back, the instance runs or is about to end, or it gives up. -/
theorem sound_conclude_putBack {i : Instance} (hi : i.stage = .running) {step : Step σ}
    (h : step.scene.self = i ∨ step.scene.self = { i with stage := .terminating }) :
    (conclude step.putBack).1.self.Sound := by
  obtain ⟨x, l, failure⟩ := step
  cases failure with
  | none =>
    refine iff_of_true rfl ?_
    rcases h with h | h
    · exact .inl ((congrArg Instance.stage h).trans hi)
    · exact .inr (congrArg Instance.stage h)
  | some cause => exact sound_fail _

/-- **The ledger stays where it belongs**, whatever the event is and whatever the loop does. -/
theorem Sound.handle {i : Instance} (h : i.Sound) (loop : Loop σ) (e : Event) (s : σ) :
    (handle loop i e s).1.self.Sound := by
  have hr := handle_response loop i e s
  generalize Instance.handle loop i e s = turn at hr
  cases hr with
  | finished => exact h
  | failed => exact sound_fail _
  | started =>
    exact sound_conclude_putBack (i := (i.opening s).self) rfl (schedule_upshot loop .empty _).self
  | handled hi _ _ hin => exact sound_conclude_putBack (i := { i with data := none }) hi hin.self
  | late => exact h
  | stopped =>
    exact iff_of_false Bool.false_ne_true fun h => h.elim Stage.noConfusion Stage.noConfusion

theorem caller_handle (loop : Loop σ) (i : Instance) (e : Event) (s : σ) :
    (Instance.handle loop i e s).1.self.caller = i.caller := by
  have hput (j : Instance) {step : Step σ}
      (h : step.scene.self = j ∨ step.scene.self = { j with stage := .terminating }) :
      (conclude step.putBack).1.self.caller = j.caller := by
    obtain ⟨x, l, failure⟩ := step
    cases failure <;> exact h.elim (congrArg Instance.caller) (congrArg Instance.caller)
  have hr := handle_response loop i e s
  generalize Instance.handle loop i e s = turn at hr
  cases hr with
  | finished => rfl
  | failed => rfl
  | started => exact hput (i.opening s).self (schedule_upshot loop .empty _).self
  | handled _ _ _ hin => exact hput { i with data := none } hin.self
  | late => rfl
  | stopped => rfl

/-- While an instance runs, a step that needs the ledger gets it. -/
theorem Sound.withData {i : Instance} (h : i.Sound) (hi : i.stage = .running) (s : σ)
    (as : List Action) :
    ∃ l, i.data = some l ∧ ∀ (type : EventType) (step : Ledger → Scene σ → Step σ),
      withData type step ⟨i, s, as⟩ = (step l ⟨{ i with data := none }, s, as⟩).putBack := by
  obtain ⟨l, hl⟩ := Option.isSome_iff_exists.1 (h.2 (.inl hi))
  refine ⟨l, hl, fun type step => ?_⟩
  simp only [Instance.withData, hl]

end Instance

/-! ### Stage and ledger in one phase -/

/-- There is memory for every record. -/
structure Loop.Ample (loop : Loop σ) : Prop where
  probe (s : σ) : loop.sparesProbe s = true
  sample (s : σ) : loop.sparesSample s = true

/-- A carrier with memory for every record. -/
def Carrier.toLoop (carrier : Carrier σ) : Loop σ :=
  { carrier with sparesProbe := fun _ => true, sparesSample := fun _ => true }

theorem Carrier.ample_toLoop (carrier : Carrier σ) : carrier.toLoop.Ample :=
  ⟨fun _ => rfl, fun _ => rfl⟩

/-- A measurement, with the ledger taken from its phase. -/
def Measurement.toInstance (m : Measurement) : Instance :=
  ⟨m.config, m.skeleton, m.caller, m.stage, m.ledger?, m.window⟩

/-- A measurement that runs, without its ledger. -/
def Measurement.emptied (m : Measurement) : Instance :=
  ⟨m.config, m.skeleton, m.caller, .running, none, m.window⟩

theorem Measurement.isSome_ledger?_iff (m : Measurement) :
    m.ledger?.isSome = true ↔ m.stage = .running ∨ m.stage = .terminating := by
  rw [ledger?, stage]
  cases m.phase <;> simp [Phase.ledger?, Phase.stage]

/-- The answer of a measurement, as an instance gives it. -/
def Turn.apart (turn : Turn σ) : Instance.Scene σ × Option Error :=
  (⟨turn.measurement.toInstance, turn.state, turn.actions⟩, turn.failure)

namespace Instance

open Measurement

variable {loop : Loop σ}

/-- The instances whose ledger is where it belongs are those that come of measurements. -/
theorem sound_iff {i : Instance} : i.Sound ↔ ∃ m : Measurement, m.toInstance = i := by
  constructor
  · intro h
    obtain ⟨c, skeleton, caller, stage, data, w⟩ := i
    cases stage <;> cases data <;> simp only [Sound, Option.isSome, reduceCtorEq, or_self, or_false,
      or_true, iff_true, iff_false, not_true] at h
    case created.none => exact ⟨⟨c, skeleton, caller, w, .created⟩, rfl⟩
    case running.some l => exact ⟨⟨c, skeleton, caller, w, .running l⟩, rfl⟩
    case terminating.some l => exact ⟨⟨c, skeleton, caller, w, .terminating l⟩, rfl⟩
    case terminated.none => exact ⟨⟨c, skeleton, caller, w, .terminated⟩, rfl⟩
    case errored.none => exact ⟨⟨c, skeleton, caller, w, .errored⟩, rfl⟩
  · rintro ⟨m, rfl⟩
    exact m.isSome_ledger?_iff

theorem sendProbes_eq (h : loop.Ample) (i n : Nat) (l : Ledger) (x : Scene σ) :
    ∃ l', (sendFrom loop.toCarrier x.self.skeleton i n l x.state).phase = .running l' ∧
      sendProbes loop i n l x =
        ⟨x.proceed (sendFrom loop.toCarrier x.self.skeleton i n l x.state).state
          (sendFrom loop.toCarrier x.self.skeleton i n l x.state).actions, l',
          (sendFrom loop.toCarrier x.self.skeleton i n l x.state).failure⟩ := by
  induction n generalizing i l x with
  | zero => exact ⟨l, rfl, by rw [sendProbes, sendFrom, Scene.proceed_nil]⟩
  | succ n ih =>
    rw [sendProbes, sendFrom]
    simp only [h.probe]
    rcases hp : loop.submit x.state (copy x.self.skeleton i) with ⟨cause | p, s⟩
    · exact ⟨l, rfl, rfl⟩
    · obtain ⟨l', hl, hs⟩ := ih (i + 1) (l.record p)
        (x.proceed s [.submit (copy x.self.skeleton i) (some p)])
      rw [Scene.proceed_proceed] at hs
      exact ⟨l', hl, hs⟩

theorem conclude_putBack (m : Measurement) (as : List Action) {p : Progress σ} {l : Ledger}
    (hl : p.phase.ledger? = some l) :
    conclude (Step.putBack ⟨⟨{ m.emptied with stage := p.phase.stage }, p.state, as ++ p.actions⟩,
      l, p.failure⟩) = (m.conclude as p).apart := by
  obtain ⟨phase, state, actions, failure⟩ := p
  cases failure with
  | none =>
    change phase.ledger? = some l at hl
    simp only [Step.putBack, Instance.conclude, Measurement.conclude, Turn.apart, toInstance,
      ledger?, hl]
    rfl
  | some cause => rfl

/-- With memory for every record, a decision is that of a measurement. -/
theorem conclude_schedule (h : loop.Ample) (m : Measurement) (l : Ledger) (s : σ)
    (as : List Action) :
    conclude (schedule loop l ⟨m.emptied, s, as⟩).putBack =
      (m.conclude as (m.schedule loop.toCarrier l s)).apart := by
  rw [Measurement.schedule]
  by_cases hdue : 0 < m.due l ∧ l.settled + l.inFlight.length ≠ m.config.count.toNat
  · have hi : schedule loop l ⟨m.emptied, s, as⟩ =
        sendProbes loop 1 (m.due l) l ⟨m.emptied, s, as⟩ := if_pos hdue
    obtain ⟨l', hp, hs⟩ := sendProbes_eq h 1 (m.due l) l ⟨m.emptied, s, as⟩
    change (sendFrom loop.toCarrier m.skeleton 1 (m.due l) l s).phase = .running l' at hp
    rw [hi, hs, if_pos hdue, ← conclude_putBack m as (congrArg Phase.ledger? hp), hp]
    rfl
  · rw [if_neg hdue]
    by_cases hnone : l.inFlight.isEmpty = true
    · have hi : schedule loop l ⟨m.emptied, s, as⟩ = _ := (if_neg hdue).trans (if_pos hnone)
      rw [hi, if_pos hnone, ← conclude_putBack m as rfl, Scene.ask_ask]
      rfl
    · have hi : schedule loop l ⟨m.emptied, s, as⟩ = _ := (if_neg hdue).trans (if_neg hnone)
      rw [hi, if_neg hnone, ← conclude_putBack m as rfl]
      rfl

section

variable {m : Measurement} {l : Ledger}

theorem toInstance_of_phase {p : Phase} (hp : m.phase = p) :
    m.toInstance = ⟨m.config, m.skeleton, m.caller, p.stage, p.ledger?, m.window⟩ := by
  rw [← hp]
  rfl

theorem putBack_emptied (hp : m.phase = .running l) (s : σ) :
    conclude (Step.putBack ⟨⟨m.emptied, s, []⟩, l, none⟩) = (m.ignore s).apart := by
  rw [Turn.apart, ignore, toInstance_of_phase hp]
  rfl

/-- With memory for every record, a reply or a timeout is taken in as by a measurement. -/
theorem conclude_intake (h : loop.Ample) (hp : m.phase = .running l) {e : Event}
    (he : e.sent?.isSome = true) {s : σ} {step : Step σ}
    (hin : Intake loop e l ⟨m.emptied, s, []⟩ step) :
    conclude step.putBack = (m.handle loop.toCarrier e s).apart := by
  cases hin with
  | lacking _ hm => cases (h.sample s).symm.trans hm
  | dropped hc =>
    rw [handle_of_close?_eq_none hp he hc]
    exact putBack_emptied hp s
  | @settled l' f hc hf =>
    rw [handle_of_close? hp hc hf]
    exact conclude_schedule h m l' s [.raise f]

theorem onStart_eq (h : loop.Ample) (hp : m.phase = .created) (s : σ) :
    conclude (onStart loop ⟨m.toInstance, s, []⟩) = (m.start loop.toCarrier s).apart := by
  rw [toInstance_of_phase hp, onStart, start]
  dsimp only
  cases m.config.validate with
  | error cause => rfl
  | ok _ =>
    cases loop.room m.config.count.toNat with
    | false => rfl
    | true =>
      exact conclude_schedule h { m with window := m.config.window } .empty s
        [.throwEvent m.caller .start]

end

/-- **With memory for every record, an instance does what the measurement does.** -/
theorem handle_toInstance (h : loop.Ample) (m : Measurement) (e : Event) (s : σ) :
    handle loop m.toInstance e s = (m.handle loop.toCarrier e s).apart := by
  obtain ⟨c, skeleton, caller, w, phase⟩ := m
  cases phase with
  | created =>
    cases e with
    | start => exact onStart_eq h rfl s
    | _ => rfl
  | running l =>
    cases e with
    | reply r => exact conclude_intake h rfl rfl (onReply_intake loop r l _)
    | timeout p => exact conclude_intake h rfl rfl (onTimeout_intake loop p l _)
    | _ => rfl
  | terminating l => cases e <;> rfl
  | terminated => rfl
  | errored => rfl

end Instance

end EchoProbe
