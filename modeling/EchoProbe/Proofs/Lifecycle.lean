import Mathlib.Data.List.Basic
import EchoProbe.Proofs.Custody
import EchoProbe.Proofs.Window

/-!
# From one stage to the next

An event leads a measurement from one stage to the next, or leaves it at the one at which it is.

* `Action.isRoutine` and its like tell apart what can be asked of a loop;
* `Measurement.Passage` lists how an event leads from stage to stage, and what is asked of the loop
  on the way; `Instance.handle_passage` says that **there is no other way**, whether there is memory
  for all records or not, and `Measurement.handle_passage` is the case in which there is;
* `Stage.Advance` is what becomes of the stage alone.
-/

namespace EchoProbe

variable {σ : Type}

namespace Action

/-- The loop is asked to send a probe, or the caller is told of a probe or to wait. -/
def isRoutine : Action → Bool
  | submit _ _ => true
  | raise (.allProbesSent _) => false
  | raise _ => true
  | _ => false

/-- The caller is told that the measurement starts. -/
def isStart : Action → Bool
  | throwEvent _ .start => true
  | _ => false

/-- The caller is told that the measurement has been stopped. -/
def isStop : Action → Bool
  | throwEvent _ .terminated => true
  | _ => false

/-- The caller is told that all probes are settled. -/
def isAllSent : Action → Bool
  | raise (.allProbesSent _) => true
  | _ => false

/-- The loop is asked to stop the measurement. -/
def isTermination : Action → Bool
  | raiseTerminated => true
  | _ => false

/-- The loop is told that the measurement has failed. -/
def isFailure : Action → Bool
  | raiseError => true
  | _ => false

/-- It belongs to the end of a measurement that has settled all probes. -/
def isClosing (a : Action) : Bool := a.isAllSent || a.isTermination

/-- What is routine is none of the signals. -/
theorem kinds_of_isRoutine {a : Action} (h : a.isRoutine = true) :
    a.isStart = false ∧ a.isStop = false ∧ a.isAllSent = false ∧ a.isTermination = false ∧
      a.isFailure = false := by
  cases a with
  | submit => exact ⟨rfl, rfl, rfl, rfl, rfl⟩
  | raise f =>
    cases f with
    | allProbesSent => cases h
    | _ => exact ⟨rfl, rfl, rfl, rfl, rfl⟩
  | raiseTerminated => cases h
  | raiseError => cases h
  | throwEvent => cases h

theorem isClosing_eq_false_of_isRoutine {a : Action} (h : a.isRoutine = true) :
    a.isClosing = false := by
  obtain ⟨-, -, hall, hterm, -⟩ := kinds_of_isRoutine h
  rw [isClosing, hall, hterm]
  rfl

theorem isFailure_eq_false_of_isRoutine {a : Action} (h : a.isRoutine = true) :
    a.isFailure = false :=
  (kinds_of_isRoutine h).2.2.2.2

theorem isRoutine_of_mem_submissions {skeleton : Probe} {i : Nat} {ps : List SentProbe}
    {a : Action} (ha : a ∈ Measurement.submissions skeleton i ps) : a.isRoutine = true := by
  induction ps generalizing i with
  | nil => cases ha
  | cons p ps ih =>
    rcases List.mem_cons.1 ha with rfl | ha
    · rfl
    · exact ih ha

theorem isRoutine_raise_of_finding? {target : IpAddr} {e : Event} {f : Finding}
    (h : e.finding? target = some f) : (raise f).isRoutine = true := by
  cases e <;> cases h <;> rfl

end Action

/-- All of the actions are routine. -/
def Routine (as : List Action) : Prop := ∀ a ∈ as, a.isRoutine = true

namespace Routine

theorem nil : Routine [] := fun _ h => by cases h

theorem append {as bs : List Action} (ha : Routine as) (hb : Routine bs) : Routine (as ++ bs) :=
  List.forall_mem_append.2 ⟨ha, hb⟩

theorem cons {a : Action} {as : List Action} (ha : a.isRoutine = true) (has : Routine as) :
    Routine (a :: as) :=
  List.forall_mem_cons.2 ⟨ha, has⟩

theorem not_closing {as : List Action} (h : Routine as) : ∀ a ∈ as, a.isClosing = false :=
  fun a ha => Action.isClosing_eq_false_of_isRoutine (h a ha)

theorem not_failure {as : List Action} (h : Routine as) : ∀ a ∈ as, a.isFailure = false :=
  fun a ha => Action.isFailure_eq_false_of_isRoutine (h a ha)

theorem filter_eq_nil {as : List Action} (h : Routine as) :
    as.filter (fun a => !a.isRoutine) = [] :=
  List.filter_eq_nil_iff.2 fun a ha => by rw [h a ha]; exact Bool.false_ne_true

theorem submissions (skeleton : Probe) (i : Nat) (ps : List SentProbe) :
    Routine (Measurement.submissions skeleton i ps) :=
  fun _ => Action.isRoutine_of_mem_submissions

end Routine

/-! ### One event -/

namespace Measurement

/-- How an event leads from one stage to the next, and what is asked of the loop over it. -/
inductive Passage (caller : Option InstanceId) (e : Event) :
    Stage → List Action → Stage → Prop
  /-- The event is ignored. -/
  | ignored {st : Stage} : st ≠ .created → st.isFinished = true ∨ e.sent?.isSome = true →
      Passage caller e st [] st
  /-- The measurement starts. -/
  | started {as : List Action} : e = .start → Routine as →
      Passage caller e .created (.throwEvent caller .start :: as) .running
  /-- The measurement starts, and a probe is refused. -/
  | cutShort {as : List Action} : e = .start → Routine as →
      Passage caller e .created (.throwEvent caller .start :: (as ++ [.raiseError])) .errored
  /-- The measurement goes on. -/
  | continued {as : List Action} : e.sent?.isSome = true → Routine as →
      Passage caller e .running as .running
  /-- The last probe is settled. -/
  | completed {as : List Action} {t : Summary} : e.sent?.isSome = true → Routine as →
      Passage caller e .running (as ++ [.raise (.allProbesSent t), .raiseTerminated]) .terminating
  /-- A probe is refused. -/
  | brokenOff {as : List Action} : e.sent?.isSome = true → Routine as →
      Passage caller e .running (as ++ [.raiseError]) .errored
  /-- The measurement is stopped. -/
  | stopped {st : Stage} : st.isFinished = false → e = .terminated →
      Passage caller e st [.throwEvent caller .terminated] .terminated
  /-- The measurement cannot handle the event. -/
  | failed {st : Stage} : st.isFinished = false → e ≠ .terminated →
      Passage caller e st [.raiseError] .errored

end Measurement

namespace Instance

open Measurement

variable {loop : Loop σ} {i : Instance} {e : Event} {s : σ}

theorem Burst.routine {k n : Nat} {l : Ledger} {x : Scene σ} {step : Step σ}
    (h : Burst loop k n l x step) :
    ∃ as, Routine as ∧ step.scene.actions = x.actions ++ as := by
  cases h with
  | sent => exact ⟨_, .submissions _ _ _, rfl⟩
  | cramped => exact ⟨_, .submissions _ _ _, rfl⟩
  | refused => exact ⟨_, .append (.submissions _ _ _) (.cons rfl .nil), rfl⟩

/-- A burst that does not fail leaves the instance at its stage; any other is told of last. -/
theorem Burst.conclude_cases {k n : Nat} {l : Ledger} {x : Scene σ} {step : Step σ}
    (h : Burst loop k n l x step) :
    ∃ as, Routine as ∧
      ((conclude step.putBack).1.actions = x.actions ++ as ∧
          (conclude step.putBack).1.self.stage = x.self.stage ∨
        (conclude step.putBack).1.actions = x.actions ++ (as ++ [.raiseError]) ∧
          (conclude step.putBack).1.self.stage = .errored) := by
  obtain ⟨as, has, hactions⟩ := h.routine
  have hstage : step.scene.self.stage = x.self.stage := congrArg Instance.stage h.self
  refine ⟨as, has, ?_⟩
  obtain ⟨scene, l', failure⟩ := step
  cases failure with
  | none => exact .inl ⟨hactions, hstage⟩
  | some cause =>
    refine .inr ⟨?_, rfl⟩
    rw [← List.append_assoc, ← hactions]
    rfl

theorem schedule_opening (hn : 0 < i.config.count.toNat) (loop : Loop σ) (s : σ) :
    schedule loop .empty (i.opening s) =
      sendProbes loop 1 i.config.window .empty (i.opening s) := by
  have hd : (i.opening s).self.due .empty = i.config.window :=
    Nat.min_eq_right i.config.window_le_count
  rw [schedule, hd]
  exact if_pos ⟨Config.window_pos hn, Nat.ne_of_lt hn⟩

theorem passage_of_started (hv : i.config.validate = .ok ()) (s : σ) :
    Passage i.caller .start .created
      (conclude (schedule loop .empty (i.opening s)).putBack).1.actions
      (conclude (schedule loop .empty (i.opening s)).putBack).1.self.stage := by
  rw [schedule_opening (Config.count_pos_of_validate hv)]
  obtain ⟨as, has, ⟨hactions, hstage⟩ | ⟨hactions, hstage⟩⟩ :=
    (sendProbes_burst loop 1 i.config.window .empty (i.opening s)).conclude_cases
  · rw [hactions, hstage]
    exact .started rfl has
  · rw [hactions, hstage]
    exact .cutShort rfl has

/-- A settlement is told first, and then the decision follows. -/
theorem passage_of_settled (hi : i.stage = .running) {f : Finding} (he : e.sent?.isSome = true)
    (hf : e.finding? i.config.target = some f) (l : Ledger) (s : σ) :
    Passage i.caller e .running
      (conclude (schedule loop l ⟨{ i with data := none }, s, [.raise f]⟩).putBack).1.actions
      (conclude (schedule loop l ⟨{ i with data := none }, s,
        [.raise f]⟩).putBack).1.self.stage := by
  have hroutine := Action.isRoutine_raise_of_finding? hf
  have hc := schedule_upshot loop l ⟨{ i with data := none }, s, [.raise f]⟩
  generalize schedule loop l ⟨{ i with data := none }, s, [.raise f]⟩ = step at hc
  cases hc with
  | burst hb =>
    obtain ⟨as, has, ⟨hactions, hstage⟩ | ⟨hactions, hstage⟩⟩ := hb.conclude_cases
    · rw [hactions, hstage, show Instance.stage _ = _ from hi]
      exact .continued he (.cons hroutine has)
    · rw [hactions, hstage]
      exact .brokenOff he (.cons hroutine has)
  | finished =>
    have has : Routine [.raise f] := .cons hroutine .nil
    exact .completed he has
  | waited =>
    show Passage _ _ _ _ i.stage
    rw [hi]
    exact .continued he (.cons hroutine (.cons rfl .nil))

/-- **There is no other way from one stage to the next.** -/
theorem handle_passage (loop : Loop σ) (i : Instance) (e : Event) (s : σ) :
    Passage i.caller e i.stage (handle loop i e s).1.actions (handle loop i e s).1.self.stage := by
  have hr := handle_response loop i e s
  generalize handle loop i e s = turn at hr
  cases hr with
  | finished hi =>
    refine .ignored ?_ (.inl hi)
    intro h
    rw [h] at hi
    cases hi
  | failed hi hm => exact .failed hi hm.ne_terminated
  | started hi he hv =>
    rw [hi, he]
    exact passage_of_started hv s
  | handled hi _ he hin =>
    rw [hi]
    cases hin with
    | lacking => exact .failed rfl (by rintro rfl; cases he)
    | dropped =>
      show Passage _ _ _ _ i.stage
      rw [hi]
      exact .ignored Stage.noConfusion (.inr he)
    | settled _ hf => exact passage_of_settled hi he hf _ s
  | late hi he =>
    refine .ignored ?_ (.inr he)
    rw [hi]
    exact Stage.noConfusion
  | stopped hi he => exact .stopped hi he

end Instance

namespace Measurement

variable {m : Measurement} {carrier : Carrier σ} {e : Event}

theorem handle_passage (m : Measurement) (carrier : Carrier σ) (e : Event) (s : σ) :
    Passage m.caller e m.stage (m.handle carrier e s).actions
      (m.handle carrier e s).measurement.stage := by
  have h := Instance.handle_passage carrier.toLoop m.toInstance e s
  rw [Instance.handle_toInstance carrier.ample_toLoop] at h
  exact h

theorem not_exists_of_forall_eq_false {as : List Action} {P : Action → Bool}
    (h : ∀ a ∈ as, P a = false) : ¬∃ a ∈ as, P a = true := by
  rintro ⟨a, ha, hp⟩
  rw [h a ha] at hp
  cases hp

/-- What belongs to the end is asked for in the step that comes to the end, and in no other. -/
theorem Passage.closing_iff {caller : Option InstanceId} {st st' : Stage} {as : List Action}
    (h : Passage caller e st as st') :
    (∃ a ∈ as, a.isClosing = true) ↔ st ≠ .terminating ∧ st' = .terminating := by
  cases h with
  | ignored =>
    exact iff_of_false (not_exists_of_forall_eq_false fun _ h => by cases h) fun h => h.1 h.2
  | started _ has =>
    exact iff_of_false (not_exists_of_forall_eq_false (List.forall_mem_cons.2
      ⟨rfl, has.not_closing⟩)) fun h => Stage.noConfusion h.2
  | cutShort _ has =>
    exact iff_of_false (not_exists_of_forall_eq_false (List.forall_mem_cons.2 ⟨rfl,
      List.forall_mem_append.2 ⟨has.not_closing, List.forall_mem_singleton.2 rfl⟩⟩))
      fun h => Stage.noConfusion h.2
  | continued _ has =>
    exact iff_of_false (not_exists_of_forall_eq_false has.not_closing)
      fun h => Stage.noConfusion h.2
  | completed => exact iff_of_true ⟨.raiseTerminated, by simp, rfl⟩ ⟨Stage.noConfusion, rfl⟩
  | brokenOff _ has =>
    exact iff_of_false (not_exists_of_forall_eq_false (List.forall_mem_append.2
      ⟨has.not_closing, List.forall_mem_singleton.2 rfl⟩)) fun h => Stage.noConfusion h.2
  | stopped =>
    exact iff_of_false (not_exists_of_forall_eq_false (List.forall_mem_singleton.2 rfl))
      fun h => Stage.noConfusion h.2
  | failed =>
    exact iff_of_false (not_exists_of_forall_eq_false (List.forall_mem_singleton.2 rfl))
      fun h => Stage.noConfusion h.2

/-- The loop is told of a failure in the step in which the measurement fails, and in no other. -/
theorem Passage.failure_iff {caller : Option InstanceId} {st st' : Stage} {as : List Action}
    (h : Passage caller e st as st') (hst : st.isFinished = false) :
    (∃ a ∈ as, a.isFailure = true) ↔ st' = .errored := by
  cases h with
  | ignored =>
    refine iff_of_false (not_exists_of_forall_eq_false fun _ h => by cases h) ?_
    rintro rfl
    cases hst
  | started _ has =>
    exact iff_of_false (not_exists_of_forall_eq_false (List.forall_mem_cons.2
      ⟨rfl, has.not_failure⟩)) Stage.noConfusion
  | cutShort => exact iff_of_true ⟨.raiseError, by simp, rfl⟩ rfl
  | continued _ has =>
    exact iff_of_false (not_exists_of_forall_eq_false has.not_failure) Stage.noConfusion
  | completed _ has =>
    refine iff_of_false (not_exists_of_forall_eq_false (List.forall_mem_append.2
      ⟨has.not_failure, ?_⟩)) Stage.noConfusion
    exact List.forall_mem_cons.2 ⟨rfl, List.forall_mem_singleton.2 rfl⟩
  | brokenOff => exact iff_of_true ⟨.raiseError, by simp, rfl⟩ rfl
  | stopped =>
    exact iff_of_false (not_exists_of_forall_eq_false (List.forall_mem_singleton.2 rfl))
      Stage.noConfusion
  | failed => exact iff_of_true ⟨.raiseError, by simp, rfl⟩ rfl

theorem isSome_failure_iff (hm : m.stage.isFinished = false) (s : σ) :
    (m.handle carrier e s).failure.isSome = true ↔
      (m.handle carrier e s).measurement.stage = .errored := by
  rcases handle_outline m carrier e s with ⟨-, h⟩ | ⟨w, as, l, h⟩ | h | ⟨cause, h⟩
  · rw [h]
    refine iff_of_false Bool.false_ne_true ?_
    intro hst
    rw [show m.stage = .errored from hst] at hm
    cases hm
  · rw [h, conclude]
    have hl := (schedule_ledger { m with window := w } carrier l s).1
    generalize schedule { m with window := w } carrier l s = p at hl
    cases hf : p.failure with
    | none =>
      -- a decision leaves a ledger
      refine iff_of_false Bool.false_ne_true ?_
      intro hst
      change p.phase.stage = .errored at hst
      cases hp : p.phase <;> rw [hp] at hl hst <;> first | cases hl; done | cases hst
    | some cause => exact iff_of_true rfl rfl
  · rw [h]
    exact iff_of_false Bool.false_ne_true Stage.noConfusion
  · rw [h]
    exact iff_of_true rfl rfl

end Measurement

/-- What can become of a stage over one event. -/
inductive Stage.Advance : Stage → Stage → Prop
  | stay (st : Stage) : Advance st st
  | start : Advance .created .running
  | finish : Advance .running .terminating
  | stop {st : Stage} : st.isFinished = false → Advance st .terminated
  | fail {st : Stage} : st.isFinished = false → Advance st .errored

theorem Measurement.Passage.advance {caller : Option InstanceId} {e : Event} {st st' : Stage}
    {as : List Action} (h : Passage caller e st as st') : Stage.Advance st st' := by
  cases h with
  | ignored => exact .stay st
  | started => exact .start
  | cutShort => exact .fail rfl
  | continued => exact .stay _
  | completed => exact .finish
  | brokenOff => exact .fail rfl
  | stopped hst => exact .stop hst
  | failed hst => exact .fail hst

theorem Measurement.Passage.terminated_iff {caller : Option InstanceId} {e : Event}
    {st st' : Stage} {as : List Action} (h : Passage caller e st as st')
    (hst : st.isFinished = false) : st' = .terminated ↔ e = .terminated := by
  have hne : e.sent?.isSome = true → e ≠ .terminated := by
    rintro he rfl
    cases he
  cases h with
  | ignored _ he =>
    rw [hst] at he
    refine iff_of_false ?_ (hne (he.resolve_left Bool.false_ne_true))
    rintro rfl
    cases hst
  | started he => exact iff_of_false Stage.noConfusion (by rw [he]; exact Event.noConfusion)
  | cutShort he => exact iff_of_false Stage.noConfusion (by rw [he]; exact Event.noConfusion)
  | continued he => exact iff_of_false Stage.noConfusion (hne he)
  | completed he => exact iff_of_false Stage.noConfusion (hne he)
  | brokenOff he => exact iff_of_false Stage.noConfusion (hne he)
  | stopped _ he => exact iff_of_true rfl he
  | failed _ he => exact iff_of_false Stage.noConfusion he

end EchoProbe
