import EchoProbe.Proofs.Breakdown
import EchoProbe.Proofs.Budget
import EchoProbe.Proofs.Flight

/-!
# What a burst submits

A burst is a row of copies of the skeleton, each a multiple of the delay of the skeleton later than
now. A span of time has an upper limit, and so has the multiple, but a burst that fits in the window
never comes near to them.

* `Probe.CopyOf` says in what the `i`-th copy of a probe differs from it: in the delay, and in
  nothing else; `Probe.Spaced` says this of a row of copies, which are in the order of their delays;
* `Measurement.exists_copies_sendFrom` says which copies a burst submits;
* `Measurement.Outlay` lists what an event can ask to be sent: nothing, or one burst that fits in
  the window;
* `Life.submits_copies` puts this together over a whole life, and adds that the distances in a
  burst of echo requests are exact.
-/

namespace EchoProbe

variable {σ : Type}

/-- The probe that the loop is asked to send. -/
def Action.submitted? : Action → Option Probe
  | submit p _ => some p
  | _ => none

/-- The probes that were submitted in the course of a decision, in order. -/
def Progress.submitted (p : Progress σ) : List Probe := p.actions.filterMap Action.submitted?

/-- The probes that were submitted over an event, in order. -/
def Turn.submitted (t : Turn σ) : List Probe := t.actions.filterMap Action.submitted?

/-! ### Copies -/

namespace Probe

/-- The `i`-th copy of a probe: its delay is `i` times that of the original, but the factor stops
short of 2^32, and the delay at the longest span. -/
structure CopyOf (skeleton : Probe) (i : Nat) (p : Probe) : Prop where
  /-- The fields are the same, in the same order. -/
  fields : p.fields = skeleton.fields
  sent : p.sent = skeleton.sent
  received : p.received = skeleton.received
  bestEffort : skeleton.delay = .bestEffort → p.delay = .bestEffort
  after (d : Duration) : skeleton.delay = .after d → ∃ d', p.delay = .after d' ∧
    d'.nanos = min (min i (2 ^ 32 - 1) * d.nanos) Duration.longest.nanos

/-- The probes are the first copies of the skeleton. -/
structure Spaced (skeleton : Probe) (ps : List Probe) : Prop where
  copies (i : Nat) (p : Probe) : ps[i]? = some p → CopyOf skeleton (i + 1) p
  /-- None is to be sent earlier than the one before it. -/
  ascending : ps.Pairwise fun p q => p.delay.offset ≤ q.delay.offset

end Probe

namespace Measurement

open Probe

/-- The copies of a probe from number one on. -/
def copies (skeleton : Probe) (k : Nat) : List Probe := (List.range' 1 k).map (copy skeleton)

@[simp] theorem length_copies (skeleton : Probe) (k : Nat) : (copies skeleton k).length = k := by
  simp [copies]

theorem getElem?_copies {skeleton p : Probe} {k i : Nat} (h : (copies skeleton k)[i]? = some p) :
    i < k ∧ p = copy skeleton (i + 1) := by
  have hi : i < k := by simpa using (List.getElem?_eq_some_iff.1 h).1
  rw [copies, List.getElem?_map, List.getElem?_range' hi, Nat.one_mul, Nat.add_comm] at h
  exact ⟨hi, (Option.some.inj h).symm⟩

theorem copyOf_copy (skeleton : Probe) (i : Nat) : CopyOf skeleton i (copy skeleton i) where
  fields := rfl
  sent := rfl
  received := rfl
  bestEffort h := by
    show skeleton.delay.scale _ = _
    rw [h]
    rfl
  after d h := by
    refine ⟨d.scale (min i (2 ^ 32 - 1)), ?_, ?_⟩
    · show skeleton.delay.scale _ = _
      rw [h]
      rfl
    · show min (d.nanos * _) _ = _
      rw [Nat.mul_comm]
      rfl

theorem offset_copy_le {i j : Nat} (h : i ≤ j) (skeleton : Probe) :
    (copy skeleton i).delay.offset ≤ (copy skeleton j).delay.offset := by
  show (Delay.scale _ skeleton.delay).offset.nanos ≤ (Delay.scale _ skeleton.delay).offset.nanos
  cases skeleton.delay with
  | bestEffort => exact Nat.le_refl _
  | after d =>
    have hmul : d.nanos * min i (2 ^ 32 - 1) ≤ d.nanos * min j (2 ^ 32 - 1) :=
      Nat.mul_le_mul_left _ (by omega)
    show min _ _ ≤ min _ _
    omega

theorem spaced_copies (skeleton : Probe) (k : Nat) : Spaced skeleton (copies skeleton k) where
  copies i p h := by
    obtain ⟨-, rfl⟩ := getElem?_copies h
    exact copyOf_copy skeleton (i + 1)
  ascending := by
    refine List.pairwise_map.2 (List.Pairwise.imp ?_ List.pairwise_lt_range')
    intro i j h
    exact offset_copy_le (Nat.le_of_lt h) skeleton

/-- Within the window, the distances are exact, and none is beyond the timeout or one interval. -/
theorem nanos_copy_echoSkeleton {c : Config} {i : Nat} (h : i ≤ c.window) :
    (copy c.echoSkeleton i).delay.offset.nanos = min i (2 ^ 32 - 1) * c.interval.nanos ∧
      (copy c.echoSkeleton i).delay.offset.nanos ≤ max c.interval.nanos c.timeout.nanos := by
  have hle : min i (2 ^ 32 - 1) * c.interval.nanos ≤ max c.interval.nanos c.timeout.nanos :=
    Nat.le_trans (Nat.mul_le_mul_right _ (Nat.min_le_left _ _)) (Config.mul_interval_le_max h)
  have hinterval := c.interval.nanos_lt
  have htimeout := c.timeout.nanos_lt
  rw [offset_copy_echoSkeleton]
  omega

/-! ### One burst -/

theorem filterMap_submitted?_submissions (skeleton : Probe) (i : Nat) (ps : List SentProbe) :
    (submissions skeleton i ps).filterMap Action.submitted? =
      (List.range' i ps.length).map (copy skeleton) := by
  induction ps generalizing i with
  | nil => rfl
  | cons p ps ih =>
    show copy skeleton i :: (submissions skeleton (i + 1) ps).filterMap Action.submitted? = _
    rw [ih]
    rfl

/-- A burst submits the first copies: all it should, or all up to one that is refused. -/
theorem exists_copies_sendFrom (carrier : Carrier σ) (skeleton : Probe) (n : Nat) (l : Ledger)
    (s : σ) :
    ∃ k ≤ n, (sendFrom carrier skeleton 1 n l s).submitted = copies skeleton k ∧
      (((sendFrom carrier skeleton 1 n l s).failure = none ∧ k = n ∧
        ((sendFrom carrier skeleton 1 n l s).actions.filterMap Action.accepted?).length = k) ∨
      (sendFrom carrier skeleton 1 n l s).failure.isSome = true ∧
        ((sendFrom carrier skeleton 1 n l s).actions.filterMap Action.accepted?).length + 1 =
          k) := by
  obtain ⟨ps, s₁, -, ⟨hn, h⟩ | ⟨hn, e, s₂, -, h⟩⟩ := sendFrom_cases carrier skeleton 1 n l s
  · rw [h]
    refine ⟨ps.length, Nat.le_of_eq hn, filterMap_submitted?_submissions skeleton 1 ps,
      .inl ⟨rfl, hn, ?_⟩⟩
    rw [filterMap_accepted?_submissions]
  · rw [h]
    refine ⟨ps.length + 1, hn, ?_, .inr ⟨rfl, ?_⟩⟩
    · show List.filterMap _ _ = _
      rw [List.filterMap_append, filterMap_submitted?_submissions, copies, List.range'_1_concat,
        List.map_append]
      rfl
    · rw [List.filterMap_append, filterMap_accepted?_submissions, List.filterMap_cons_none rfl]
      exact congrArg (· + 1) (congrArg List.length (List.append_nil ps))

/-- The outcome of a burst of `n` copies. -/
structure IsBurst (skeleton : Probe) (n : Nat) (p : Progress σ) : Prop where
  spaced : Spaced skeleton p.submitted
  le : p.submitted.length ≤ n
  /-- Unless the loop refuses a probe, all are submitted. -/
  all : p.failure = none → p.submitted.length = n
  /-- All are accepted, but for the one that is refused. -/
  accepted : p.submitted.length =
    (p.actions.filterMap Action.accepted?).length + if p.failure.isSome then 1 else 0

/-- **A burst is a row of copies**, which ends with the first that is refused. -/
theorem isBurst_sendFrom (carrier : Carrier σ) (skeleton : Probe) (n : Nat) (l : Ledger) (s : σ) :
    IsBurst skeleton n (sendFrom carrier skeleton 1 n l s) := by
  obtain ⟨k, hkn, hk, hcases⟩ := exists_copies_sendFrom carrier skeleton n l s
  have hlen := congrArg List.length hk
  rw [length_copies] at hlen
  refine ⟨hk ▸ spaced_copies skeleton k, hlen ▸ hkn, ?_, ?_⟩
  · intro hnone
    rcases hcases with ⟨-, hkn, -⟩ | ⟨hf, -⟩
    · exact hlen.trans hkn
    · rw [hnone] at hf
      cases hf
  · rw [hlen]
    rcases hcases with ⟨hf, -, hacc⟩ | ⟨hf, hacc⟩
    · rw [hf]
      exact hacc.symm
    · rw [if_pos hf]
      exact hacc.symm

/-! ### One event -/

/-- What an event asks to be sent. -/
inductive Outlay (c : Config) (m : Measurement) (carrier : Carrier σ) (s : σ) : Turn σ → Prop
  /-- Nothing, and the loop stays as it was. -/
  | none {turn : Turn σ} : turn.submitted = [] → turn.state = s →
      turn.failure ≠ some .clockOverflow → Outlay c m carrier s turn
  /-- One burst, which fits in the window and in what is left to send. -/
  | burst {m' : Measurement} {as : List Action} {n : Nat} {l : Ledger} :
      as.filterMap Action.submitted? = [] → n ≤ c.window → n ≤ c.count.toNat - m.sentSoFar →
      Outlay c m carrier s (conclude m' as (sendFrom carrier m.skeleton 1 n l s))

theorem filterMap_actions_conclude {α : Type} {g : Action → Option α} (hg : g .raiseError = none)
    (m : Measurement) (as : List Action) (p : Progress σ) :
    (m.conclude as p).actions.filterMap g = as.filterMap g ++ p.actions.filterMap g := by
  unfold conclude
  cases p.failure with
  | none => exact List.filterMap_append
  | some e =>
    show ((as ++ p.actions) ++ [Action.raiseError]).filterMap g = _
    rw [List.filterMap_append, List.filterMap_append, List.filterMap_cons_none hg]
    exact List.append_nil _

theorem submitted_conclude (m : Measurement) (as : List Action) (p : Progress σ) :
    (m.conclude as p).submitted = as.filterMap Action.submitted? ++ p.submitted :=
  filterMap_actions_conclude rfl m as p

theorem schedule_burst_or (m : Measurement) (carrier : Carrier σ) (l : Ledger) (s : σ) :
    m.schedule carrier l s = sendFrom carrier m.skeleton 1 (m.due l) l s ∨
      (m.schedule carrier l s).submitted = [] ∧ (m.schedule carrier l s).state = s ∧
        (m.schedule carrier l s).failure = none := by
  unfold schedule
  split
  · exact .inl rfl
  · split
    · exact .inr ⟨rfl, rfl, rfl⟩
    · exact .inr ⟨rfl, rfl, rfl⟩

variable {m : Measurement} {c : Config}

theorem outlay_schedule (m m' : Measurement) {as : List Action} {l : Ledger}
    (has : as.filterMap Action.submitted? = []) (hskeleton : m'.skeleton = m.skeleton)
    (hconfig : m'.config = c) (hwindow : m'.window = c.window) (hsent : l.sent.size = m.sentSoFar)
    (carrier : Carrier σ) (s : σ) :
    Outlay c m carrier s (conclude m' as (m'.schedule carrier l s)) := by
  rcases m'.schedule_burst_or carrier l s with h | ⟨hnone, hstate, hfail⟩
  · have hdue₁ : m'.due l ≤ c.window := by
      rw [← hwindow]
      exact Nat.le_trans (Nat.min_le_right _ _) (Nat.sub_le _ _)
    have hdue₂ : m'.due l ≤ c.count.toNat - m.sentSoFar := by
      rw [← hconfig, ← hsent]
      exact Nat.min_le_left _ _
    rw [h, hskeleton]
    exact .burst has hdue₁ hdue₂
  · refine .none ?_ ?_ ?_
    · rw [submitted_conclude, has, hnone]
      rfl
    · rw [conclude, hfail]
      exact hstate
    · rw [failure_conclude, hfail]
      simp

/-- **An event asks for nothing to be sent, or for one burst that fits in the window.** -/
theorem InStep.outlay (hm : m.InStep c) (carrier : Carrier σ) (e : Event) (s : σ) :
    Outlay c m carrier s (m.handle carrier e s) := by
  have hr := handle_reaction m carrier e s
  generalize m.handle carrier e s = turn at hr
  cases hr with
  | started hp he hv hl =>
    have has : [Action.throwEvent m.caller .start].filterMap Action.submitted? = [] := rfl
    refine outlay_schedule m { m with window := m.config.window } has rfl hm.config
      (congrArg Config.window hm.config) ?_ carrier s
    rw [sentSoFar, ledger?, hp]
    rfl
  | @settled l l' f hp hcl hf =>
    have has : [Action.raise f].filterMap Action.submitted? = [] := rfl
    obtain ⟨q, hq⟩ := Ledger.closes_of_close? hcl
    refine outlay_schedule m m has rfl hm.config (hm.window l hp) ?_ carrier s
    rw [hq.sent, sentSoFar, ledger?_of_running hp]
    rfl
  | invalid _ _ hv =>
    obtain ⟨d, -, rfl⟩ := Config.validate_eq_error_iff.1 hv
    exact .none rfl rfl (by simp [fail])
  | finished => exact .none rfl rfl (by simp [ignore])
  | dropped => exact .none rfl rfl (by simp [ignore])
  | late => exact .none rfl rfl (by simp [ignore])
  | stopped => exact .none rfl rfl (by simp [stop])
  | crowded => exact .none rfl rfl (by simp [fail])
  | aborted => exact .none rfl rfl (by simp [fail])
  | misplaced => exact .none rfl rfl (by simp [fail])

/-- An event submits the first copies of the skeleton, no more than the window holds. -/
theorem InStep.exists_copies (hm : m.InStep c) (carrier : Carrier σ) (e : Event) (s : σ) :
    ∃ k ≤ c.window, (m.handle carrier e s).submitted = copies m.skeleton k := by
  have ho := hm.outlay carrier e s
  generalize m.handle carrier e s = turn at ho
  cases ho with
  | none h => exact ⟨0, Nat.zero_le _, h⟩
  | @burst m' as n l has hn _ =>
    obtain ⟨k, hkn, hk, -⟩ := exists_copies_sendFrom carrier m.skeleton n l s
    exact ⟨k, Nat.le_trans hkn hn, by rw [submitted_conclude, has, hk, List.nil_append]⟩

end Measurement

/-! ### Over a whole life -/

namespace Life

open Measurement Probe

/-- From `x` on, where nothing has happened yet, the measurement submits copies of its skeleton and
nothing else. -/
structure SubmitsCopies (carrier : Carrier σ) (x : Life) : Prop where
  /-- A burst submits the first copies, and it tells what the carrier answered. -/
  burst (n : Nat) (l : Ledger) (s : σ) :
    IsBurst x.measurement.skeleton n (sendFrom carrier x.measurement.skeleton 1 n l s) ∧
      Answered carrier x.measurement.skeleton s
        (sendFrom carrier x.measurement.skeleton 1 n l s).actions
        (sendFrom carrier x.measurement.skeleton 1 n l s).state
  /-- The skeleton stays what it was. -/
  skeleton_eq (ds : List (Delivery σ)) :
    (x.after carrier ds).measurement.skeleton = x.measurement.skeleton
  /-- Whatever has happened, an event submits the first copies, no more than the window holds. -/
  event (ds : List (Delivery σ)) (e : Event) (s : σ) :
    Spaced x.measurement.skeleton ((x.after carrier ds).measurement.handle carrier e s).submitted ∧
      ((x.after carrier ds).measurement.handle carrier e s).submitted.length ≤
        x.measurement.config.window
  /-- What an event submits is what the carrier is asked for, with its answers. -/
  answered (ds : List (Delivery σ)) (e : Event) (s : σ) :
    Answered carrier x.measurement.skeleton s
      ((x.after carrier ds).measurement.handle carrier e s).actions
      ((x.after carrier ds).measurement.handle carrier e s).state
  /-- The distances of echo requests are exact, and none is beyond the timeout or one interval. -/
  exact (ds : List (Delivery σ)) (e : Event) (s : σ) (i : Nat) (p : Probe) :
    x.measurement.skeleton = x.measurement.config.echoSkeleton →
      ((x.after carrier ds).measurement.handle carrier e s).submitted[i]? = some p →
      p.delay.offset.nanos = min (i + 1) (2 ^ 32 - 1) * x.measurement.config.interval.nanos ∧
        p.delay.offset.nanos ≤
          max x.measurement.config.interval.nanos x.measurement.config.timeout.nanos

/-- **A measurement submits rows of copies of its skeleton, at growing distances.** The skeleton
never changes, and the distances of echo requests are never cut short. -/
theorem submits_copies (c : Config) (skeleton : Probe) (caller : Option InstanceId)
    (carrier : Carrier σ) : (begin c skeleton caller).SubmitsCopies carrier := by
  have hskeleton : ∀ ds, ((begin c skeleton caller).after carrier ds).measurement.skeleton =
      skeleton := fun ds => (sameTask_after (begin c skeleton caller) ds).skeleton
  have hcopies : ∀ ds e s, ∃ k ≤ c.window,
      (((begin c skeleton caller).after carrier ds).measurement.handle carrier e s).submitted =
        copies skeleton k := by
    intro ds e s
    obtain ⟨k, hk, h⟩ := (inStep_after c skeleton caller carrier ds).exists_copies carrier e s
    exact ⟨k, hk, h.trans (congrArg (copies · k) (hskeleton ds))⟩
  refine ⟨fun n l s => ⟨isBurst_sendFrom carrier skeleton n l s,
    sendFrom_answered carrier skeleton n l s⟩, hskeleton, ?_, ?_, ?_⟩
  · intro ds e s
    obtain ⟨k, hk, h⟩ := hcopies ds e s
    rw [h, length_copies]
    exact ⟨spaced_copies skeleton k, hk⟩
  · intro ds e s
    have ha := ((begin c skeleton caller).after carrier ds).measurement.handle_answered carrier e s
    rwa [hskeleton ds] at ha
  · intro ds e s i p hecho hp
    obtain ⟨k, hk, h⟩ := hcopies ds e s
    rw [h] at hp
    obtain ⟨hi, rfl⟩ := getElem?_copies hp
    obtain rfl : skeleton = c.echoSkeleton := hecho
    exact nanos_copy_echoSkeleton (Nat.le_trans hi hk)

end Life

end EchoProbe
