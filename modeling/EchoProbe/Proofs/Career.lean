import Mathlib.Data.List.Basic
import EchoProbe.Proofs.Lifecycle

/-!
# The career of an instance

Whatever a loop does, and whether there is memory for all records or not, an instance starts once,
comes to its end once and stops or fails once. Its ledger is there while it runs or is about to end,
so that no event finds it missing.

* `Transcript` is what can have been asked of the loop so far, seen from the stage;
* `Career` is an instance with its history, `Career.after` the same after some more events, and
  `Career.after_toCareer` says that **with memory for every record it is the life of a
  measurement**;
* `Career.Disciplined` puts together what holds of whole careers, and `Career.disciplined` says that
  it does.
-/

namespace EchoProbe

variable {σ : Type}

/-! ### What has been asked so far -/

/-- What has been asked of the loop so far, at a stage at which there may be more. -/
inductive OpenTranscript (caller : Option InstanceId) : Stage → List Action → Prop
  | created : OpenTranscript caller .created []
  | running {as : List Action} : Routine as →
      OpenTranscript caller .running (.throwEvent caller .start :: as)
  | terminating {as : List Action} {t : Summary} : Routine as →
      OpenTranscript caller .terminating
        (.throwEvent caller .start :: (as ++ [.raise (.allProbesSent t), .raiseTerminated]))

/-- What has been asked of the loop so far. -/
inductive Transcript (caller : Option InstanceId) : Stage → List Action → Prop
  | ongoing {st : Stage} {as : List Action} : OpenTranscript caller st as → Transcript caller st as
  | stopped {st : Stage} {as : List Action} : OpenTranscript caller st as →
      Transcript caller .terminated (as ++ [.throwEvent caller .terminated])
  | failed {st : Stage} {as : List Action} : OpenTranscript caller st as →
      Transcript caller .errored (as ++ [.raiseError])

/-- What a measurement may ask for besides its routine, in the order in which this comes. -/
def Action.signals (caller : Option InstanceId) (t : Summary) : List Action :=
  [.throwEvent caller .start, .raise (.allProbesSent t), .raiseTerminated,
    .throwEvent caller .terminated, .raiseError]

namespace OpenTranscript

variable {caller : Option InstanceId} {st : Stage} {as : List Action}

theorem sublist (h : OpenTranscript caller st as) :
    ∃ t, (as.filter fun a => !a.isRoutine).Sublist
      [.throwEvent caller .start, .raise (.allProbesSent t), .raiseTerminated] := by
  cases h with
  | created => exact ⟨Ledger.empty.summary, List.nil_sublist _⟩
  | running has =>
    refine ⟨Ledger.empty.summary, ?_⟩
    rw [List.filter_cons_of_pos rfl, has.filter_eq_nil]
    exact List.Sublist.cons_cons _ (List.nil_sublist _)
  | @terminating as t has =>
    refine ⟨t, ?_⟩
    rw [List.filter_cons_of_pos rfl, List.filter_append, has.filter_eq_nil]
    exact List.Sublist.refl _

theorem closing_cases (h : OpenTranscript caller st as) :
    (∀ a ∈ as, a.isClosing = false) ∨ ∃ before t,
      as = before ++ [.raise (.allProbesSent t), .raiseTerminated] ∧
        ∀ a ∈ before, a.isClosing = false := by
  cases h with
  | created => exact .inl fun _ h => by cases h
  | running has => exact .inl (List.forall_mem_cons.2 ⟨rfl, has.not_closing⟩)
  | terminating has =>
    exact .inr ⟨_, _, (List.cons_append ..).symm, List.forall_mem_cons.2 ⟨rfl, has.not_closing⟩⟩

end OpenTranscript

namespace Transcript

variable {caller : Option InstanceId} {st st' : Stage} {as bs : List Action} {e : Event}

theorem isOpen (h : Transcript caller st as) (hst : st.isFinished = false) :
    OpenTranscript caller st as := by
  cases h with
  | ongoing h => exact h
  | stopped => cases hst
  | failed => cases hst

/-- One more event goes on with the transcript. -/
theorem extend (h : Transcript caller st as) (hp : Measurement.Passage caller e st bs st') :
    Transcript caller st' (as ++ bs) := by
  cases hp with
  | ignored => rwa [List.append_nil]
  | started _ hbs =>
    cases h.isOpen rfl
    exact .ongoing (.running hbs)
  | cutShort _ hbs =>
    cases h.isOpen rfl
    exact .failed (.running hbs)
  | continued _ hbs =>
    cases h.isOpen rfl with
    | running has => exact .ongoing (.running (has.append hbs))
  | completed _ hbs =>
    cases h.isOpen rfl with
    | running has =>
      rw [List.cons_append, ← List.append_assoc]
      exact .ongoing (.terminating (has.append hbs))
  | brokenOff _ hbs =>
    cases h.isOpen rfl with
    | running has =>
      rw [List.cons_append, ← List.append_assoc, ← List.cons_append]
      exact .failed (.running (has.append hbs))
  | stopped hst => exact .stopped (h.isOpen hst)
  | failed hst => exact .failed (h.isOpen hst)

/-- What is not routine comes once at most. -/
theorem sublist_signals (h : Transcript caller st as) :
    ∃ t, (as.filter fun a => !a.isRoutine).Sublist (Action.signals caller t) := by
  cases h with
  | ongoing h =>
    obtain ⟨t, ht⟩ := h.sublist
    exact ⟨t, ht.trans (List.sublist_append_left ..)⟩
  | stopped h =>
    obtain ⟨t, ht⟩ := h.sublist
    rw [List.filter_append]
    exact ⟨t, ht.append (List.sublist_append_left _ [Action.raiseError])⟩
  | failed h =>
    obtain ⟨t, ht⟩ := h.sublist
    rw [List.filter_append]
    exact ⟨t, ht.append (List.sublist_cons_self (Action.throwEvent caller .terminated) _)⟩

theorem countP_le_one {P : Action → Bool} (h : Transcript caller st as)
    (hroutine : ∀ a, a.isRoutine = true → P a = false)
    (hone : ∀ t, (Action.signals caller t).countP P = 1) : as.countP P ≤ 1 := by
  obtain ⟨t, ht⟩ := h.sublist_signals
  have hfilter : as.countP P = (as.filter fun a => !a.isRoutine).countP P := by
    rw [List.countP_filter]
    refine List.countP_congr fun a _ => ?_
    cases hr : a.isRoutine
    · simp
    · simp [hroutine a hr]
  rw [hfilter, ← hone t]
  exact ht.countP_le

theorem eq_caller_of_mem (h : Transcript caller st as) {target : Option InstanceId}
    (ha : .throwEvent target e ∈ as) : target = caller ∧ (e = .start ∨ e = .terminated) := by
  obtain ⟨t, ht⟩ := h.sublist_signals
  have hmem := ht.subset (List.mem_filter.2 ⟨ha, rfl⟩)
  simp only [Action.signals, List.mem_cons, Action.throwEvent.injEq, reduceCtorEq,
    List.not_mem_nil, or_false, false_or] at hmem
  rcases hmem with ⟨rfl, rfl⟩ | ⟨rfl, rfl⟩
  · exact ⟨rfl, .inl rfl⟩
  · exact ⟨rfl, .inr rfl⟩

/-- The end is raised as a pair, and at most one signal comes after it. -/
theorem closing_cases (h : Transcript caller st as) :
    (∀ a ∈ as, a.isClosing = false) ∨ ∃ before t later,
      as = before ++ .raise (.allProbesSent t) :: .raiseTerminated :: later ∧
        (∀ a ∈ before, a.isClosing = false) ∧
        (later = [] ∨ later = [.throwEvent caller .terminated] ∨ later = [.raiseError]) := by
  cases h with
  | ongoing h =>
    rcases h.closing_cases with h | ⟨before, t, rfl, hb⟩
    · exact .inl h
    · exact .inr ⟨before, t, [], rfl, hb, .inl rfl⟩
  | stopped h =>
    rcases h.closing_cases with h | ⟨before, t, rfl, hb⟩
    · exact .inl (List.forall_mem_append.2 ⟨h, List.forall_mem_singleton.2 rfl⟩)
    · exact .inr ⟨before, t, [.throwEvent caller .terminated], List.append_assoc .., hb,
        .inr (.inl rfl)⟩
  | failed h =>
    rcases h.closing_cases with h | ⟨before, t, rfl, hb⟩
    · exact .inl (List.forall_mem_append.2 ⟨h, List.forall_mem_singleton.2 rfl⟩)
    · exact .inr ⟨before, t, [.raiseError], List.append_assoc .., hb, .inr (.inr rfl)⟩

end Transcript

/-! ### Failures of a step on the ledger -/

namespace Instance

open Measurement

variable {loop : Loop σ} {i : Instance} {e : Event} {s : σ}

/-- The failures over a reply or a timeout that finds the ledger, when `as` was asked of the loop
over it. -/
inductive Shortfall (loop : Loop σ) (skeleton : Probe) (s : σ) (as : List Action) : Error → Prop
  /-- There is no memory for the round trip time. -/
  | sample : loop.sparesSample s = false → Shortfall loop skeleton s as .allocationFailure
  /-- There is no memory for the record of a copy, after some that were accepted. -/
  | probe {ps : List SentProbe} {s₁ : σ} : Accepts loop.toCarrier skeleton 1 s ps s₁ →
      loop.sparesProbe s₁ = false → Shortfall loop skeleton s as .allocationFailure
  /-- A copy is refused, after some that were accepted, and the cause is that of the refusal. -/
  | refused {ps : List SentProbe} {s₁ s₂ : σ} {cause : Error} :
      Accepts loop.toCarrier skeleton 1 s ps s₁ →
      loop.submit s₁ (copy skeleton (1 + ps.length)) = (.error cause, s₂) →
      .submit (copy skeleton (1 + ps.length)) none ∈ as → Shortfall loop skeleton s as cause

/-- What is out of place is no shortfall, unless a refusal is put down to it. -/
theorem Shortfall.refused_of_invalidState {skeleton : Probe} {as : List Action} {st : Stage}
    {type : EventType} (h : Shortfall loop skeleton s as (.invalidState st type)) :
    ∃ ps s₁ s₂, Accepts loop.toCarrier skeleton 1 s ps s₁ ∧
      loop.submit s₁ (copy skeleton (1 + ps.length)) = (.error (.invalidState st type), s₂) := by
  cases h with
  | refused ha hr => exact ⟨_, _, _, ha, hr⟩

theorem Burst.shortfall {n : Nat} {l : Ledger} {x : Scene σ} {step : Step σ} {cause : Error}
    (h : Burst loop 1 n l x step) (hf : step.failure = some cause) {as : List Action}
    (has : ∀ a ∈ step.scene.actions, a ∈ as) :
    Shortfall loop x.self.skeleton x.state as cause := by
  cases h with
  | sent => cases hf
  | cramped ha _ hm =>
    cases hf
    exact .probe ha hm
  | refused ha _ hr =>
    cases hf
    exact .refused ha hr (has _ (by simp [Scene.proceed]))

theorem Intake.shortfall {l : Ledger} {x : Scene σ} {step : Step σ} {cause : Error}
    (h : Intake loop e l x step) (hf : step.failure = some cause) {as : List Action}
    (has : ∀ a ∈ step.scene.actions, a ∈ as) :
    Shortfall loop x.self.skeleton x.state as cause := by
  cases h with
  | lacking _ hm =>
    cases hf
    exact .sample hm
  | dropped => cases hf
  | @settled l' f _ _ =>
    have hu := schedule_upshot loop l' (x.ask (.raise f))
    generalize schedule loop l' (x.ask (.raise f)) = step at hu hf has
    cases hu with
    | burst hb => exact hb.shortfall hf has
    | finished => cases hf
    | waited => cases hf

/-- An instance that has its ledger fails over a reply or a timeout only for want of memory or over
a copy that is refused. -/
theorem Sound.shortfall (h : i.Sound) (hd : i.data.isSome = true) (he : e.sent?.isSome = true)
    {cause : Error} (hf : (Instance.handle loop i e s).2 = some cause) :
    Shortfall loop i.skeleton s (Instance.handle loop i e s).1.actions cause := by
  have hr := handle_response loop i e s
  generalize Instance.handle loop i e s = turn at hr hf
  cases hr with
  | finished => cases hf
  | failed _ hm => exact (hm.not_of_data (h.1 hd) hd he).elim
  | started _ hs => rw [hs] at he; cases he
  | @handled l step _ _ _ hin =>
    obtain ⟨x, l', failure⟩ := step
    cases failure with
    | none => cases hf
    | some cause =>
      cases hf
      exact hin.shortfall rfl fun a ha => List.mem_append_left _ ha
  | late => cases hf
  | stopped => cases hf

end Instance

/-! ### Whole careers -/

/-- An instance and what has happened to it. -/
structure Career where
  /-- The instance. -/
  self : Instance
  /-- What has happened to it. -/
  history : History

/-- A life, with the ledger apart. -/
def Life.toCareer (x : Life) : Career := ⟨x.measurement.toInstance, x.history⟩

namespace Career

open Instance Measurement

/-- An instance to which nothing has happened. -/
def begin (c : Config) (skeleton : Probe) (caller : Option InstanceId) : Career :=
  ⟨.new c skeleton caller, []⟩

/-- One more event. -/
def next (loop : Loop σ) (x : Career) (d : Delivery σ) : Career :=
  let scene := (handle loop x.self d.event d.state).1
  ⟨scene.self, ⟨d.event, scene.actions⟩ :: x.history⟩

/-- Some more events, one after the other. -/
def after (loop : Loop σ) (x : Career) (ds : List (Delivery σ)) : Career :=
  ds.foldl (next loop) x

variable {loop : Loop σ}

theorem after_invariant {P : Career → Prop} {x : Career} (h₀ : P x)
    (hstep : ∀ x d, P x → P (x.next loop d)) (ds : List (Delivery σ)) : P (x.after loop ds) := by
  induction ds generalizing x with
  | nil => exact h₀
  | cons d ds ih => exact ih (hstep x d h₀)

/-- **With memory for every record, a career is the life of a measurement.** -/
theorem after_toCareer (h : loop.Ample) (x : Life) (ds : List (Delivery σ)) :
    x.toCareer.after loop ds = (x.after loop.toCarrier ds).toCareer := by
  induction ds generalizing x with
  | nil => rfl
  | cons d ds ih =>
    have hnext : x.toCareer.next loop d = (x.next loop.toCarrier d).toCareer := by
      have hturn := handle_toInstance h x.measurement d.event d.state
      rw [next, Life.toCareer, hturn]
      rfl
    show (x.toCareer.next loop d).after loop ds = _
    rw [hnext, ih]
    rfl

/-- Whatever happens from `x` on, where nothing has happened yet, the instance goes through its
stages in order, and no event finds its ledger missing. -/
structure Disciplined (loop : Loop σ) (x : Career) : Prop where
  /-- The stages follow each other. -/
  advances (ds : List (Delivery σ)) (d : Delivery σ) :
    Stage.Advance (x.after loop ds).self.stage ((x.after loop ds).next loop d).self.stage
  /-- An instance that has not finished is stopped when it is told so, and only then. -/
  stops (ds : List (Delivery σ)) (d : Delivery σ) :
    (x.after loop ds).self.stage.isFinished = false →
      (((x.after loop ds).next loop d).self.stage = .terminated ↔ d.event = .terminated)
  /-- Once it has finished, nothing happens any more, and nothing fails. -/
  rests (ds : List (Delivery σ)) (d : Delivery σ) :
    (x.after loop ds).self.stage.isFinished = true →
      handle loop (x.after loop ds).self d.event d.state =
        (⟨(x.after loop ds).self, d.state, []⟩, none)
  /-- The ledger is in its place while probes are in flight or the end is awaited, and at no other
  time. -/
  data (ds : List (Delivery σ)) :
    (x.after loop ds).self.data.isSome = true ↔
      (x.after loop ds).self.stage = .running ∨ (x.after loop ds).self.stage = .terminating
  /-- So a step that needs the ledger gets it, and what it leaves is put back. -/
  withData (ds : List (Delivery σ)) (s : σ) (as : List Action) :
    (x.after loop ds).self.stage = .running → ∃ l, (x.after loop ds).self.data = some l ∧
      ∀ (type : EventType) (step : Ledger → Scene σ → Step σ),
        Instance.withData type step ⟨(x.after loop ds).self, s, as⟩ =
          (step l ⟨{ (x.after loop ds).self with data := none }, s, as⟩).putBack
  /-- An answer or a timeout that finds the ledger fails for want of memory, or over the copy that
  is refused and with the cause of the refusal. -/
  answers (ds : List (Delivery σ)) (d : Delivery σ) (cause : Error) :
    (x.after loop ds).self.data.isSome = true → d.event.sent?.isSome = true →
      (handle loop (x.after loop ds).self d.event d.state).2 = some cause →
      Shortfall loop (x.after loop ds).self.skeleton d.state
        (handle loop (x.after loop ds).self d.event d.state).1.actions cause
  /-- So it is never out of place, unless the loop puts a refusal down to that. -/
  inPlace (ds : List (Delivery σ)) (d : Delivery σ) (st : Stage) (type : EventType) :
    (x.after loop ds).self.data.isSome = true → d.event.sent?.isSome = true →
      (handle loop (x.after loop ds).self d.event d.state).2 = some (.invalidState st type) →
      ∃ ps s₁ s₂, Accepts loop.toCarrier (x.after loop ds).self.skeleton 1 d.state ps s₁ ∧
        loop.submit s₁ (copy (x.after loop ds).self.skeleton (1 + ps.length)) =
          (.error (.invalidState st type), s₂)
  /-- Nothing but the start and the stop is thrown, and to the caller only. -/
  thrown (ds : List (Delivery σ)) (target : Option InstanceId) (e : Event) :
    .throwEvent target e ∈ (x.after loop ds).history.actions →
      target = x.self.caller ∧ (e = .start ∨ e = .terminated)
  /-- Each signal is given once at most. -/
  once (ds : List (Delivery σ)) :
    (x.after loop ds).history.actions.countP Action.isStart ≤ 1 ∧
      (x.after loop ds).history.actions.countP Action.isStop ≤ 1 ∧
      (x.after loop ds).history.actions.countP Action.isFailure ≤ 1 ∧
      (x.after loop ds).history.actions.countP Action.isAllSent ≤ 1 ∧
      (x.after loop ds).history.actions.countP Action.isTermination ≤ 1
  /-- The end is raised in the step that comes to it, and in no other. -/
  closes (ds : List (Delivery σ)) (d : Delivery σ) :
    (∃ a ∈ (handle loop (x.after loop ds).self d.event d.state).1.actions,
        a.isClosing = true) ↔
      (x.after loop ds).self.stage ≠ .terminating ∧
        ((x.after loop ds).next loop d).self.stage = .terminating
  /-- It is raised as a pair, after which the instance is stopped or fails, and nothing else is
  asked for. -/
  pair (ds : List (Delivery σ)) :
    (∀ a ∈ (x.after loop ds).history.actions, a.isClosing = false) ∨
      ∃ before t later, (x.after loop ds).history.actions =
          before ++ .raise (.allProbesSent t) :: .raiseTerminated :: later ∧
        (∀ a ∈ before, a.isClosing = false) ∧
        (later = [] ∨ later = [.throwEvent x.self.caller .terminated] ∨ later = [.raiseError])

theorem sound_after (c : Config) (skeleton : Probe) (caller : Option InstanceId) (loop : Loop σ)
    (ds : List (Delivery σ)) : ((begin c skeleton caller).after loop ds).self.Sound :=
  after_invariant (P := fun x => x.self.Sound) (sound_new c skeleton caller)
    (fun _ d h => h.handle loop d.event d.state) ds

theorem transcript_after (c : Config) (skeleton : Probe) (caller : Option InstanceId)
    (loop : Loop σ) (ds : List (Delivery σ)) :
    Transcript caller ((begin c skeleton caller).after loop ds).self.stage
      ((begin c skeleton caller).after loop ds).history.actions := by
  have hcaller : ((begin c skeleton caller).after loop ds).self.caller = caller ∧
      Transcript caller ((begin c skeleton caller).after loop ds).self.stage
        ((begin c skeleton caller).after loop ds).history.actions := by
    refine after_invariant (P := fun x => x.self.caller = caller ∧
      Transcript caller x.self.stage x.history.actions) ⟨rfl, .ongoing .created⟩ ?_ ds
    rintro x d ⟨rfl, h⟩
    exact ⟨caller_handle .., h.extend (Instance.handle_passage ..)⟩
  exact hcaller.2

/-- **An instance goes through its stages in order.** Whatever events a loop hands over, whatever it
accepts or refuses, and whether there is memory or not, the instance starts once, comes to its end
once, in one step, and is stopped or fails once; after that it stays as it is. Its ledger is there
whenever an event needs it. -/
theorem disciplined (c : Config) (skeleton : Probe) (caller : Option InstanceId)
    (loop : Loop σ) : (begin c skeleton caller).Disciplined loop where
  advances ds d := (Instance.handle_passage ..).advance
  stops ds d hst := (Instance.handle_passage ..).terminated_iff hst
  rests ds d hst := if_pos hst
  data ds := sound_after c skeleton caller loop ds
  withData ds s as hst := (sound_after c skeleton caller loop ds).withData hst s as
  answers ds d cause hd he hf := (sound_after c skeleton caller loop ds).shortfall hd he hf
  inPlace ds d st type hd he hf :=
    ((sound_after c skeleton caller loop ds).shortfall hd he hf).refused_of_invalidState
  thrown ds target e h := (transcript_after c skeleton caller loop ds).eq_caller_of_mem h
  once ds := by
    have h : Transcript caller ((begin c skeleton caller).after loop ds).self.stage
        ((begin c skeleton caller).after loop ds).history.actions :=
      transcript_after c skeleton caller loop ds
    have hkinds := fun a ha => Action.kinds_of_isRoutine (a := a) ha
    exact ⟨h.countP_le_one (fun a ha => (hkinds a ha).1) fun _ => rfl,
      h.countP_le_one (fun a ha => (hkinds a ha).2.1) fun _ => rfl,
      h.countP_le_one (fun a ha => (hkinds a ha).2.2.2.2) fun _ => rfl,
      h.countP_le_one (fun a ha => (hkinds a ha).2.2.1) fun _ => rfl,
      h.countP_le_one (fun a ha => (hkinds a ha).2.2.2.1) fun _ => rfl⟩
  closes ds d := (Instance.handle_passage ..).closing_iff
  pair ds := (transcript_after c skeleton caller loop ds).closing_cases

end Career

end EchoProbe
