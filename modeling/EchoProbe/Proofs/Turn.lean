import EchoProbe.Measurement

/-!
# What one event does

`Measurement.handle` looks at the phase and at the event, and may then send, wait, finish, stop or
fail. This file says once what can come of it; statements about whole histories rest on the
lemmas here and open no definition of a handler again.

* `Event.sent?`, `Event.finding?` and `Event.sample?` treat replies and timeouts alike, and
  `Ledger.close?` enters either of them;
* `Measurement.sendFrom_cases` says what a burst comes to, and `Measurement.Choice` lists what a
  decision comes to;
* `Measurement.Reaction` lists the answers to an event, and `Measurement.handle_reaction` says that
  there are no others;
* `Measurement.Answered` compares what is asked of a loop with what its carrier answers, and
  `Measurement.handle_uniform` says how far an answer to an event depends on the carrier.
-/

namespace EchoProbe

namespace Event

/-- The probe that a reply or a timeout is about. -/
def sent? : Event → Option SentProbe
  | reply e => some e.sent
  | timeout p => some p
  | _ => none

/-- The event is a reply to a probe with the identity of `p`, or its timeout. -/
def carries (e : Event) (p : SentProbe) : Bool := e.sent?.any (·.id == p.id)

/-- The event is a timeout. -/
def isTimeout : Event → Bool
  | timeout _ => true
  | _ => false

/-- The round trip time that an event adds to the statistics: that of a reply from the target, if
it is known. -/
def sample? (target : IpAddr) : Event → Option Duration
  | reply e => if classify target e.reply = .reached then e.roundTrip? else none
  | _ => none

/-- What the caller is told when an event settles a probe. -/
def finding? (target : IpAddr) : Event → Option Finding
  | reply e => some (.answered (classify target e.reply) e)
  | timeout p => some (.timeout p)
  | _ => none

theorem sent?_isSome_of_finding? {target : IpAddr} {e : Event} {f : Finding}
    (h : e.finding? target = some f) : e.sent?.isSome = true := by
  cases e <;> first | rfl | cases h

theorem settles_of_finding? {target : IpAddr} {e : Event} {f : Finding}
    (h : e.finding? target = some f) : f.settles = true := by
  cases e <;> cases h <;> rfl

theorem exists_finding?_of_sent? {e : Event} (h : e.sent?.isSome = true) (target : IpAddr) :
    ∃ f, e.finding? target = some f := by
  cases e with
  | reply x => exact ⟨_, rfl⟩
  | timeout p => exact ⟨_, rfl⟩
  | start => cases h
  | terminated => cases h
  | error => cases h
  | outward f => cases h

end Event

/-- The probe that a finding is about. -/
def Finding.sent? : Finding → Option SentProbe
  | answered _ x => some x.sent
  | timeout p => some p
  | _ => none

theorem Event.sent?_of_finding? {target : IpAddr} {e : Event} {f : Finding}
    (h : e.finding? target = some f) : f.sent? = e.sent? := by
  cases e <;> cases h <;> rfl

namespace Action

/-- The probe that the loop accepted. -/
def accepted? : Action → Option SentProbe
  | submit _ accepted => accepted
  | _ => none

/-- The loop is asked to send a probe. -/
def isSubmit : Action → Bool
  | submit _ _ => true
  | _ => false

/-- The caller is told that nothing is left to send. -/
def isWait : Action → Bool
  | raise .wait => true
  | _ => false

end Action

/-! ### Entries of the ledger -/

namespace Ledger

/-- Enters some probes that were sent. -/
def recordAll (l : Ledger) (ps : List SentProbe) : Ledger := ps.foldl record l

theorem recordAll_eq (l : Ledger) (ps : List SentProbe) :
    l.recordAll ps =
      { l with sent := l.sent ++ ps.toArray, inFlight := l.inFlight ++ ps } := by
  induction ps generalizing l with
  | nil => simp [recordAll]
  | cons p ps ih =>
    rw [recordAll, List.foldl_cons, ← recordAll, ih]
    simp [record]

/-- Enters how a probe in flight ended, if the event is about one. -/
def close? (target : IpAddr) (l : Ledger) (e : Event) : Option Ledger :=
  match e with
  | .reply x => l.settleReply? x.sent (e.sample? target)
  | .timeout p => l.settleTimeout? p
  | _ => none

/-- The ledger `l'` is `l` after the event `e` has settled the probe `q`. -/
structure Closes (target : IpAddr) (l : Ledger) (e : Event) (q : SentProbe) (l' : Ledger) :
    Prop where
  carries : e.carries q = true
  inFlight : l.inFlight.Perm (q :: l'.inFlight)
  sent : l'.sent = l.sent
  settled : l'.settled = l.settled + 1
  losses : l'.losses = l.losses + if e.isTimeout then 1 else 0
  samples : l'.samples.toList = l.samples.toList ++ (e.sample? target).toList

theorem closes_of_close? {target : IpAddr} {l l' : Ledger} {e : Event}
    (h : l.close? target e = some l') : ∃ q, Closes target l e q l' := by
  cases e with
  | reply x =>
    obtain ⟨l₁, h₁, h₂⟩ := Option.map_eq_some_iff.1 h
    obtain ⟨q, hq, hp, hl⟩ := settle?_eq_some h₁
    have hc : (Event.reply x).carries q = true := by simp [Event.carries, Event.sent?, hq]
    rw [hl] at hp h₂
    cases hs : (Event.reply x).sample? target with
    | none =>
      rw [hs] at h₂
      subst h₂
      exact ⟨q, hc, hp, rfl, rfl, rfl, by simp [hs]⟩
    | some d =>
      rw [hs] at h₂
      subst h₂
      exact ⟨q, hc, hp, rfl, rfl, rfl, by simp [hs]⟩
  | timeout p =>
    obtain ⟨l₁, h₁, rfl⟩ := Option.map_eq_some_iff.1 h
    obtain ⟨q, hq, hp, hl⟩ := settle?_eq_some h₁
    rw [hl] at hp ⊢
    exact ⟨q, by simp [Event.carries, Event.sent?, hq], hp, rfl, rfl, rfl, by simp [Event.sample?]⟩
  | start => cases h
  | terminated => cases h
  | error => cases h
  | outward f => cases h

theorem close?_eq_none_iff {target : IpAddr} {l : Ledger} {e : Event} :
    l.close? target e = none ↔ ∀ q ∈ l.inFlight, e.carries q = false := by
  have key : ∀ p : SentProbe, l.settle? p = none ↔ ∀ q ∈ l.inFlight, (p.id == q.id) = false := by
    intro p
    simp only [settle?_eq_none_iff, beq_eq_false_iff_ne, ne_comm]
  cases e with
  | reply x => exact Option.map_eq_none_iff.trans (key x.sent)
  | timeout p => exact Option.map_eq_none_iff.trans (key p)
  | start => exact iff_of_true rfl fun _ _ => rfl
  | terminated => exact iff_of_true rfl fun _ _ => rfl
  | error => exact iff_of_true rfl fun _ _ => rfl
  | outward f => exact iff_of_true rfl fun _ _ => rfl

end Ledger

/-! ### Bursts -/

namespace Measurement

variable {σ : Type} {carrier : Carrier σ}

/-- The loop accepts one copy after the other, from number `i` on, and goes from the first state to
the second over it. -/
inductive Accepts (carrier : Carrier σ) (skeleton : Probe) :
    Nat → σ → List SentProbe → σ → Prop
  | nil (i : Nat) (s : σ) : Accepts carrier skeleton i s [] s
  | cons {i : Nat} {s s₁ s₂ : σ} {p : SentProbe} {ps : List SentProbe} :
      carrier.submit s (copy skeleton i) = (.ok p, s₁) →
      Accepts carrier skeleton (i + 1) s₁ ps s₂ → Accepts carrier skeleton i s (p :: ps) s₂

/-- The submissions of the copies from number `i` on, all of them accepted. -/
def submissions (skeleton : Probe) : (i : Nat) → List SentProbe → List Action
  | _, [] => []
  | i, p :: ps => .submit (copy skeleton i) (some p) :: submissions skeleton (i + 1) ps

/-- **A burst sends all it should, or all up to one that is refused.** The refusal ends it, and its
cause is the loop's own. -/
theorem sendFrom_cases (carrier : Carrier σ) (skeleton : Probe) (i n : Nat) (l : Ledger) (s : σ) :
    ∃ ps s₁, Accepts carrier skeleton i s ps s₁ ∧
      ((ps.length = n ∧ sendFrom carrier skeleton i n l s =
        ⟨.running (l.recordAll ps), s₁, submissions skeleton i ps, none⟩) ∨
      (ps.length < n ∧ ∃ e s₂,
        carrier.submit s₁ (copy skeleton (i + ps.length)) = (.error e, s₂) ∧
        sendFrom carrier skeleton i n l s =
          ⟨.running (l.recordAll ps), s₂,
            submissions skeleton i ps ++ [.submit (copy skeleton (i + ps.length)) none],
            some e⟩)) := by
  induction n generalizing i l s with
  | zero => exact ⟨[], s, .nil i s, .inl ⟨rfl, rfl⟩⟩
  | succ n ih =>
    rw [sendFrom]
    rcases hc : carrier.submit s (copy skeleton i) with ⟨e | p, s₁⟩
    · exact ⟨[], s, .nil i s, .inr ⟨Nat.succ_pos n, e, s₁, hc, rfl⟩⟩
    · -- the first copy is accepted, and what comes of the others comes of all
      obtain ⟨ps, s₂, ha, ⟨hn, h⟩ | ⟨hn, e, s₃, hr, h⟩⟩ := ih (i + 1) (l.record p) s₁
      · exact ⟨p :: ps, s₂, .cons hc ha, .inl ⟨by simp [hn], by simp only [h]; rfl⟩⟩
      · have hi : i + 1 + ps.length = i + (p :: ps).length := by
          rw [List.length_cons]; omega
        rw [hi] at hr h
        exact ⟨p :: ps, s₂, .cons hc ha,
          .inr ⟨by simpa using hn, e, s₃, hr, by simp only [h]; rfl⟩⟩

theorem sendFrom_of_refused {skeleton : Probe} {i n : Nat} {ps : List SentProbe} {s s₁ s₂ : σ}
    {cause : Error} (ha : Accepts carrier skeleton i s ps s₁) (hn : ps.length < n)
    (hr : carrier.submit s₁ (copy skeleton (i + ps.length)) = (.error cause, s₂)) (l : Ledger) :
    sendFrom carrier skeleton i n l s =
      ⟨.running (l.recordAll ps), s₂,
        submissions skeleton i ps ++ [.submit (copy skeleton (i + ps.length)) none],
        some cause⟩ := by
  induction ha generalizing n l with
  | nil i s =>
    obtain ⟨n, rfl⟩ := Nat.exists_eq_succ_of_ne_zero (Nat.ne_of_gt hn)
    rw [List.length_nil, Nat.add_zero] at hr
    simp only [sendFrom, hr]
    rfl
  | @cons i s s₁ s₂ p ps hs _ ih =>
    obtain ⟨n, rfl⟩ := Nat.exists_eq_succ_of_ne_zero (Nat.ne_of_gt (Nat.zero_lt_of_lt hn))
    have hi : i + (p :: ps).length = i + 1 + ps.length := by
      rw [List.length_cons]; omega
    rw [hi] at hr ⊢
    simp only [sendFrom, hs, ih (Nat.lt_of_succ_lt_succ hn) hr]
    rfl

/-- What a decision may come to. -/
inductive Choice (m : Measurement) (carrier : Carrier σ) (l : Ledger) (s : σ) : Progress σ → Prop
  /-- All that is due is sent. -/
  | sent {ps : List SentProbe} {s₁ : σ} : Accepts carrier m.skeleton 1 s ps s₁ →
      ps.length = m.due l →
      Choice m carrier l s
        ⟨.running (l.recordAll ps), s₁, submissions m.skeleton 1 ps, none⟩
  /-- A probe that is due is refused. -/
  | refused {ps : List SentProbe} {s₁ s₂ : σ} {e : Error} :
      Accepts carrier m.skeleton 1 s ps s₁ → ps.length < m.due l →
      carrier.submit s₁ (copy m.skeleton (1 + ps.length)) = (.error e, s₂) →
      Choice m carrier l s ⟨.running (l.recordAll ps), s₂,
        submissions m.skeleton 1 ps ++ [.submit (copy m.skeleton (1 + ps.length)) none], some e⟩
  /-- All probes are settled. -/
  | finished : l.inFlight = [] → Choice m carrier l s
      ⟨.terminating l, s, [.raise (.allProbesSent l.summary), .raiseTerminated], none⟩
  /-- Nothing is due, but some probes are in flight. -/
  | waited : l.inFlight ≠ [] → Choice m carrier l s ⟨.running l, s, [.raise .wait], none⟩

/-- **Every decision is one of those listed.** -/
theorem schedule_choice (m : Measurement) (carrier : Carrier σ) (l : Ledger) (s : σ) :
    Choice m carrier l s (m.schedule carrier l s) := by
  unfold schedule
  split
  · obtain ⟨ps, s₁, ha, ⟨hn, h⟩ | ⟨hn, e, s₂, hr, h⟩⟩ :=
      sendFrom_cases carrier m.skeleton 1 (m.due l) l s
    · rw [h]
      exact .sent ha hn
    · rw [h]
      exact .refused ha hn hr
  · split
    · rename_i hl
      exact .finished (List.isEmpty_iff.1 hl)
    · rename_i hl
      exact .waited fun h => hl (List.isEmpty_iff.2 h)

/-- A decision fails over a copy that is refused, after some that were accepted. -/
theorem exists_of_schedule_failure {m : Measurement} {l : Ledger} {s : σ} {cause : Error}
    (h : (m.schedule carrier l s).failure = some cause) :
    ∃ ps s₁ s₂, Accepts carrier m.skeleton 1 s ps s₁ ∧ ps.length < m.due l ∧
      carrier.submit s₁ (copy m.skeleton (1 + ps.length)) = (.error cause, s₂) := by
  have hc := schedule_choice m carrier l s
  generalize m.schedule carrier l s = p at hc h
  cases hc with
  | sent => cases h
  | refused ha hn hr =>
    cases h
    exact ⟨_, _, _, ha, hn, hr⟩
  | finished => cases h
  | waited => cases h

theorem failure_conclude (m : Measurement) (as : List Action) (p : Progress σ) :
    (m.conclude as p).failure = p.failure := by
  unfold conclude
  cases hf : p.failure <;> rfl

end Measurement

/-! ### The answers to an event -/

/-- At this stage, an event of this type is not out of place. -/
def Stage.handles : Stage → EventType → Bool
  | .terminated, _ => true
  | .errored, _ => true
  | _, .terminated => true
  | _, .error => true
  | .created, .start => true
  | .running, .reply => true
  | .running, .timeout => true
  | .terminating, .reply => true
  | .terminating, .timeout => true
  | _, _ => false

theorem Stage.handles_of_sent? {st : Stage} {e : Event} (hst : st = .running ∨ st = .terminating)
    (he : e.sent?.isSome = true) : st.handles e.type = true := by
  rcases hst with rfl | rfl <;> cases e <;> first | rfl | cases he

theorem Phase.handles_of_sent? {p : Phase} {e : Event} (hp : p.ledger?.isSome = true)
    (he : e.sent?.isSome = true) : p.stage.handles e.type = true := by
  refine Stage.handles_of_sent? ?_ he
  cases p with
  | running => exact .inl rfl
  | terminating => exact .inr rfl
  | _ => cases hp

namespace Measurement

variable {σ : Type}

/-- The answers that a measurement may give to an event. -/
inductive Reaction (m : Measurement) (carrier : Carrier σ) (e : Event) (s : σ) : Turn σ → Prop
  /-- The end has come before. -/
  | finished : m.stage.isFinished = true → Reaction m carrier e s (m.ignore s)
  /-- The configuration cannot drive a measurement. -/
  | invalid {cause : Error} : m.phase = .created → e = .start →
      m.config.validate = .error cause → Reaction m carrier e s (m.fail s [] cause)
  /-- There is no room for so many probes. -/
  | crowded : m.phase = .created → e = .start → m.config.validate = .ok () →
      carrier.room m.config.count.toNat = false →
      Reaction m carrier e s (m.fail s [] .allocationFailure)
  /-- The measurement starts. -/
  | started : m.phase = .created → e = .start → m.config.validate = .ok () →
      carrier.room m.config.count.toNat = true →
      Reaction m carrier e s
        (let m := { m with window := m.config.window }
         m.conclude [.throwEvent m.caller .start] (m.schedule carrier .empty s))
  /-- The probe is not in flight. -/
  | dropped {l : Ledger} : m.phase = .running l → e.sent?.isSome = true →
      l.close? m.config.target e = none → Reaction m carrier e s (m.ignore s)
  /-- A probe in flight is settled. -/
  | settled {l l' : Ledger} {f : Finding} : m.phase = .running l →
      l.close? m.config.target e = some l' → e.finding? m.config.target = some f →
      Reaction m carrier e s (m.conclude [.raise f] (m.schedule carrier l' s))
  /-- All probes are settled. -/
  | late {l : Ledger} : m.phase = .terminating l → e.sent?.isSome = true →
      Reaction m carrier e s (m.ignore s)
  /-- The measurement is stopped. -/
  | stopped : m.stage.isFinished = false → e = .terminated → Reaction m carrier e s (m.stop s)
  /-- The measurement is told to give up. -/
  | aborted : m.stage.isFinished = false → e = .error →
      Reaction m carrier e s (m.fail s [] .aborted)
  /-- The event is out of place. -/
  | misplaced : m.stage.handles e.type = false →
      Reaction m carrier e s (m.fail s [] (.invalidState m.stage e.type))

variable {m : Measurement} {carrier : Carrier σ}

theorem isFinished_stage_iff :
    m.stage.isFinished = true ↔ m.phase = .terminated ∨ m.phase = .errored := by
  show m.phase.stage.isFinished = true ↔ _
  cases m.phase <;> simp [Phase.stage, Stage.isFinished]

theorem start_reaction (hp : m.phase = .created) (s : σ) :
    Reaction m carrier .start s (m.start carrier s) := by
  unfold start
  cases hv : m.config.validate with
  | error cause => exact .invalid hp rfl hv
  | ok _ =>
    cases hr : carrier.room m.config.count.toNat with
    | false => exact .crowded hp rfl hv hr
    | true => exact .started hp rfl hv hr

theorem takeReply_reaction {l : Ledger} (hp : m.phase = .running l) (x : Exchange) (s : σ) :
    Reaction m carrier (.reply x) s (m.takeReply carrier l x s) := by
  unfold takeReply
  dsimp only
  split
  · rename_i l' hc
    exact .settled hp (show l.close? m.config.target (.reply x) = some l' from hc) rfl
  · rename_i hc
    exact .dropped hp rfl hc

theorem takeTimeout_reaction {l : Ledger} (hp : m.phase = .running l) (p : SentProbe) (s : σ) :
    Reaction m carrier (.timeout p) s (m.takeTimeout carrier l p s) := by
  unfold takeTimeout
  split
  · rename_i l' hc
    exact .settled hp hc rfl
  · rename_i hc
    exact .dropped hp rfl hc

/-- **Every answer to an event is one of those listed.** -/
theorem handle_reaction (m : Measurement) (carrier : Carrier σ) (e : Event) (s : σ) :
    Reaction m carrier e s (m.handle carrier e s) := by
  -- the two stages at which the measurement is finished come first in the handler
  have hu : (m.phase = .terminated → False) → (m.phase = .errored → False) →
      m.stage.isFinished = false := fun ht he =>
    Bool.eq_false_iff.2 fun h => (isFinished_stage_iff.1 h).elim ht he
  fun_cases handle m carrier e s with
  | case1 e hp => exact .finished (isFinished_stage_iff.2 (.inl hp))
  | case2 e hp => exact .finished (isFinished_stage_iff.2 (.inr hp))
  | case3 hp => exact start_reaction hp s
  | case4 l x hp => exact takeReply_reaction hp x s
  | case5 l p hp => exact takeTimeout_reaction hp p s
  | case6 l x hp => exact .late hp rfl
  | case7 l p hp => exact .late hp rfl
  | case8 ht he => exact .stopped (hu ht he) rfl
  | case9 ht he => exact .aborted (hu ht he) rfl
  | case10 =>
    refine .misplaced ?_
    show m.phase.stage.handles e.type = false
    cases hp : m.phase <;> cases e <;> simp_all [Phase.stage, Stage.handles, Event.type]

/-- A measurement that runs ignores an event about a probe that is not in flight. Of any other
probe, it tells the caller and then decides what next. -/
theorem handle_of_running {l : Ledger} {e : Event} (hp : m.phase = .running l)
    (he : e.sent?.isSome = true) (s : σ) :
    (l.close? m.config.target e = none ∧ m.handle carrier e s = m.ignore s) ∨
      ∃ l' f, l.close? m.config.target e = some l' ∧ e.finding? m.config.target = some f ∧
        m.handle carrier e s = m.conclude [.raise f] (m.schedule carrier l' s) := by
  -- the phase and the event leave two reactions only
  have hr := handle_reaction m carrier e s
  generalize m.handle carrier e s = turn at hr ⊢
  cases hr with
  | dropped h _ hc =>
    rw [hp] at h
    cases h
    exact .inl ⟨hc, rfl⟩
  | settled h hc hf =>
    rw [hp] at h
    cases h
    exact .inr ⟨_, _, hc, hf, rfl⟩
  | finished h =>
    rcases isFinished_stage_iff.1 h with h | h <;>
    · rw [hp] at h; cases h
  | invalid h => rw [hp] at h; cases h
  | crowded h => rw [hp] at h; cases h
  | started h => rw [hp] at h; cases h
  | late h => rw [hp] at h; cases h
  | stopped _ h => rw [h] at he; cases he
  | aborted _ h => rw [h] at he; cases he
  | misplaced h =>
    rw [stage, Phase.handles_of_sent? (by rw [hp]; rfl) he] at h
    cases h

theorem handle_of_close? {l l' : Ledger} {e : Event} {f : Finding} (hp : m.phase = .running l)
    (hc : l.close? m.config.target e = some l') (hf : e.finding? m.config.target = some f)
    (s : σ) :
    m.handle carrier e s = m.conclude [.raise f] (m.schedule carrier l' s) := by
  rcases handle_of_running hp (Event.sent?_isSome_of_finding? hf) s with
    ⟨hn, -⟩ | ⟨l'', f', hc', hf', h⟩
  · rw [hc] at hn
    cases hn
  · cases hc.symm.trans hc'
    cases hf.symm.trans hf'
    exact h

theorem handle_of_close?_eq_none {l : Ledger} {e : Event} (hp : m.phase = .running l)
    (he : e.sent?.isSome = true) (hc : l.close? m.config.target e = none) (s : σ) :
    m.handle carrier e s = m.ignore s := by
  rcases handle_of_running hp he s with ⟨-, h⟩ | ⟨l', f, hc', -⟩
  · exact h
  · rw [hc] at hc'
    cases hc'

/-! ### What a carrier answers -/

/-- The submissions among `as` are what the carrier was asked from the state `s` on, with its
answers: it accepted the first copies one after the other, and may have refused one more. -/
inductive Answered (carrier : Carrier σ) (skeleton : Probe) (s : σ) (as : List Action) : σ → Prop
  /-- The carrier accepted all that it was asked for. -/
  | accepted {ps : List SentProbe} {s₁ : σ} : Accepts carrier skeleton 1 s ps s₁ →
      as.filter Action.isSubmit = submissions skeleton 1 ps → Answered carrier skeleton s as s₁
  /-- The carrier refused the last copy. -/
  | refused {ps : List SentProbe} {s₁ s₂ : σ} {cause : Error} :
      Accepts carrier skeleton 1 s ps s₁ →
      carrier.submit s₁ (copy skeleton (1 + ps.length)) = (.error cause, s₂) →
      as.filter Action.isSubmit =
        submissions skeleton 1 ps ++ [.submit (copy skeleton (1 + ps.length)) none] →
      Answered carrier skeleton s as s₂

theorem Answered.congr {skeleton : Probe} {s s' : σ} {as bs : List Action}
    (h : Answered carrier skeleton s as s')
    (heq : bs.filter Action.isSubmit = as.filter Action.isSubmit) :
    Answered carrier skeleton s bs s' := by
  cases h with
  | accepted ha has => exact .accepted ha (heq.trans has)
  | refused ha hr has => exact .refused ha hr (heq.trans has)

theorem filter_isSubmit_submissions (skeleton : Probe) (i : Nat) (ps : List SentProbe) :
    (submissions skeleton i ps).filter Action.isSubmit = submissions skeleton i ps := by
  induction ps generalizing i with
  | nil => rfl
  | cons p ps ih => rw [submissions, List.filter_cons_of_pos rfl, ih]

theorem sendFrom_answered (carrier : Carrier σ) (skeleton : Probe) (n : Nat) (l : Ledger) (s : σ) :
    Answered carrier skeleton s (sendFrom carrier skeleton 1 n l s).actions
      (sendFrom carrier skeleton 1 n l s).state := by
  obtain ⟨ps, s₁, ha, ⟨-, h⟩ | ⟨-, cause, s₂, hr, h⟩⟩ := sendFrom_cases carrier skeleton 1 n l s
  · rw [h]
    exact .accepted ha (filter_isSubmit_submissions skeleton 1 ps)
  · rw [h]
    refine .refused ha hr ?_
    rw [List.filter_append, filter_isSubmit_submissions]
    rfl

theorem schedule_answered (m : Measurement) (carrier : Carrier σ) (l : Ledger) (s : σ) :
    Answered carrier m.skeleton s (m.schedule carrier l s).actions
      (m.schedule carrier l s).state := by
  unfold schedule
  split
  · exact sendFrom_answered carrier m.skeleton _ l s
  · split
    · exact .accepted (.nil 1 s) rfl
    · exact .accepted (.nil 1 s) rfl

theorem conclude_answered {skeleton : Probe} {s : σ} {as : List Action} {p : Progress σ}
    (has : as.filter Action.isSubmit = [])
    (hp : Answered carrier skeleton s p.actions p.state) :
    Answered carrier skeleton s (m.conclude as p).actions (m.conclude as p).state := by
  unfold conclude
  cases p.failure with
  | none => exact hp.congr (by rw [List.filter_append, has, List.nil_append])
  | some cause =>
    refine hp.congr ?_
    show (as ++ p.actions ++ [Action.raiseError]).filter Action.isSubmit = _
    rw [List.filter_append, List.filter_append, has]
    exact List.append_nil _

/-- **Over an event, the carrier is asked for copies of the skeleton, and its answers are told.** -/
theorem handle_answered (m : Measurement) (carrier : Carrier σ) (e : Event) (s : σ) :
    Answered carrier m.skeleton s (m.handle carrier e s).actions (m.handle carrier e s).state := by
  have hr := handle_reaction m carrier e s
  generalize m.handle carrier e s = turn at hr
  cases hr with
  | started =>
    exact conclude_answered rfl
      (schedule_answered { m with window := m.config.window } carrier .empty s)
  | settled => exact conclude_answered rfl (schedule_answered m carrier _ s)
  | finished => exact .accepted (.nil 1 s) rfl
  | invalid => exact .accepted (.nil 1 s) rfl
  | crowded => exact .accepted (.nil 1 s) rfl
  | dropped => exact .accepted (.nil 1 s) rfl
  | late => exact .accepted (.nil 1 s) rfl
  | stopped => exact .accepted (.nil 1 s) rfl
  | aborted => exact .accepted (.nil 1 s) rfl
  | misplaced => exact .accepted (.nil 1 s) rfl

/-! ### What becomes of the ledger -/

@[simp] theorem filterMap_accepted?_submissions (skeleton : Probe) (i : Nat)
    (ps : List SentProbe) :
    (submissions skeleton i ps).filterMap Action.accepted? = ps := by
  induction ps generalizing i with
  | nil => rfl
  | cons p ps ih =>
    show p :: (submissions skeleton (i + 1) ps).filterMap Action.accepted? = p :: ps
    rw [ih]

theorem filterMap_submissions {α : Type} {g : Action → Option α}
    (hg : ∀ p sent, g (.submit p sent) = none) (skeleton : Probe) (i : Nat)
    (ps : List SentProbe) : (submissions skeleton i ps).filterMap g = [] := by
  induction ps generalizing i with
  | nil => rfl
  | cons p ps ih => rw [submissions, List.filterMap_cons_none (hg _ _), ih]

/-- A decision enters what it sends, and sends no more than is due. -/
theorem schedule_ledger (m : Measurement) (carrier : Carrier σ) (l : Ledger) (s : σ) :
    (m.schedule carrier l s).phase.ledger? =
        some (l.recordAll ((m.schedule carrier l s).actions.filterMap Action.accepted?)) ∧
      ((m.schedule carrier l s).actions.filterMap Action.accepted?).length ≤ m.due l := by
  have hc := schedule_choice m carrier l s
  generalize m.schedule carrier l s = p at hc ⊢
  cases hc with
  | sent _ hn =>
    simp only [filterMap_accepted?_submissions]
    exact ⟨rfl, Nat.le_of_eq hn⟩
  | @refused ps _ _ _ _ hn _ =>
    -- the copy that is refused leaves no entry
    have ha : [Action.submit (copy m.skeleton (1 + ps.length)) none].filterMap
        Action.accepted? = [] := rfl
    simp only [List.filterMap_append, filterMap_accepted?_submissions, ha, List.append_nil]
    exact ⟨rfl, Nat.le_of_lt hn⟩
  | finished _ => exact ⟨rfl, Nat.zero_le _⟩
  | waited _ => exact ⟨rfl, Nat.zero_le _⟩

/-- A decision ends the measurement only when nothing is in flight. -/
theorem inFlight_eq_nil_of_schedule {m : Measurement} {carrier : Carrier σ} {l l' : Ledger} {s : σ}
    (h : (m.schedule carrier l s).phase = .terminating l') : l'.inFlight = [] := by
  have hc := schedule_choice m carrier l s
  generalize m.schedule carrier l s = p at hc h
  cases hc with
  | sent => cases h
  | refused => cases h
  | finished hl => cases h; exact hl
  | waited => cases h

/-- How the ledger after an event comes from what was there before, when `as` was asked of the loop
over the event. -/
inductive Posting (m : Measurement) (e : Event) : List Action → Ledger → Prop
  /-- The ledger has just been opened. -/
  | opened {as : List Action} : m.phase = .created → e.sent? = none →
      (as.filterMap Action.accepted?).length ≤ m.config.count.toNat →
      Posting m e as (Ledger.empty.recordAll (as.filterMap Action.accepted?))
  /-- The event is about no probe in flight. -/
  | dropped {l : Ledger} : m.phase = .running l → (∀ q ∈ l.inFlight, e.carries q = false) →
      Posting m e [] l
  /-- The event comes after the last settlement. -/
  | late {l : Ledger} : m.phase = .terminating l → Posting m e [] l
  /-- A probe in flight has been settled. -/
  | closed {l l' : Ledger} {q : SentProbe} {as : List Action} : m.phase = .running l →
      l.Closes m.config.target e q l' →
      (as.filterMap Action.accepted?).length ≤ m.config.count.toNat - l.sent.size →
      Posting m e as (l'.recordAll (as.filterMap Action.accepted?))

theorem conclude_ledger? {m : Measurement} {as : List Action} {p : Progress σ} {l : Ledger}
    (h : (m.conclude as p).measurement.ledger? = some l) :
    p.phase.ledger? = some l ∧ (m.conclude as p).actions = as ++ p.actions := by
  unfold conclude at h ⊢
  cases hf : p.failure with
  | none => rw [hf] at h; exact ⟨h, rfl⟩
  | some e => rw [hf] at h; cases h

/-- **Where a ledger comes from.** -/
theorem posting_of_ledger? {m : Measurement} {carrier : Carrier σ} {e : Event} {s : σ} {l : Ledger}
    (h : (m.handle carrier e s).measurement.ledger? = some l) :
    Posting m e (m.handle carrier e s).actions l := by
  have hr := handle_reaction m carrier e s
  generalize m.handle carrier e s = turn at h hr
  cases hr with
  | finished hm =>
    rcases isFinished_stage_iff.1 hm with hp | hp <;>
    · rw [ignore, ledger?, hp] at h; cases h
  | invalid => cases h
  | crowded => cases h
  | started hp he =>
    obtain ⟨hl, ha⟩ := conclude_ledger? h
    obtain ⟨hs, hn⟩ := schedule_ledger { m with window := m.config.window } carrier .empty s
    rw [hs, Option.some.injEq] at hl
    rw [ha, ← hl]
    refine .opened hp (by rw [he]; rfl) (Nat.le_trans hn ?_)
    exact Nat.le_trans (Nat.min_le_left _ _) (Nat.sub_le _ _)
  | @dropped l₀ hp he hc =>
    rw [ignore, ledger?, hp] at h
    cases h
    exact .dropped hp (Ledger.close?_eq_none_iff.1 hc)
  | @settled l₀ l' f hp hc hf =>
    obtain ⟨hl, ha⟩ := conclude_ledger? h
    obtain ⟨hs, hn⟩ := schedule_ledger m carrier l' s
    obtain ⟨q, hq⟩ := Ledger.closes_of_close? hc
    rw [hs, Option.some.injEq] at hl
    rw [ha, ← hl]
    refine .closed hp hq (Nat.le_trans hn (Nat.le_trans (Nat.min_le_left _ _) ?_))
    exact Nat.le_of_eq (congrArg (fun ps => m.config.count.toNat - ps.size) hq.sent)
  | @late l₀ hp he =>
    rw [ignore, ledger?, hp] at h
    cases h
    exact .late hp
  | stopped => cases h
  | aborted => cases h
  | misplaced => cases h

/-! ### What an event cannot change -/

theorem handle_of_isFinished {m : Measurement} (hm : m.stage.isFinished = true)
    (carrier : Carrier σ) (e : Event) (s : σ) : m.handle carrier e s = m.ignore s := by
  rcases isFinished_stage_iff.1 hm with hp | hp <;> simp only [handle, hp]

theorem isFinished_stage_of_ledger? {m : Measurement} (hl : m.ledger? = none)
    (hp : m.phase ≠ .created) : m.stage.isFinished = true := by
  rw [ledger?] at hl
  rw [isFinished_stage_iff]
  cases h : m.phase <;> rw [h] at hl <;> simp_all [Phase.ledger?]

/-- Seen from afar, an event is ignored, leads to a decision, or ends the measurement. -/
theorem handle_outline (m : Measurement) (carrier : Carrier σ) (e : Event) (s : σ) :
    (m.phase ≠ .created ∧ m.handle carrier e s = m.ignore s) ∨
      (∃ w as l, m.handle carrier e s =
        conclude { m with window := w } as (schedule { m with window := w } carrier l s)) ∨
      m.handle carrier e s = m.stop s ∨ ∃ cause, m.handle carrier e s = m.fail s [] cause := by
  have hr := handle_reaction m carrier e s
  generalize m.handle carrier e s = turn at hr
  cases hr with
  | finished hf =>
    refine .inl ⟨?_, rfl⟩
    intro hp
    rw [stage, hp] at hf
    exact Bool.false_ne_true hf
  | dropped hp => exact .inl ⟨by rw [hp]; exact Phase.noConfusion, rfl⟩
  | late hp => exact .inl ⟨by rw [hp]; exact Phase.noConfusion, rfl⟩
  | started => exact .inr (.inl ⟨_, _, _, rfl⟩)
  | settled => exact .inr (.inl ⟨m.window, _, _, rfl⟩)
  | stopped => exact .inr (.inr (.inl rfl))
  | invalid => exact .inr (.inr (.inr ⟨_, rfl⟩))
  | crowded => exact .inr (.inr (.inr ⟨_, rfl⟩))
  | aborted => exact .inr (.inr (.inr ⟨_, rfl⟩))
  | misplaced => exact .inr (.inr (.inr ⟨_, rfl⟩))

/-- The number of probes sent so far. -/
def sentSoFar (m : Measurement) : Nat := m.ledger?.elim 0 fun l => l.sent.size

/-- Where there is equal room, the carrier has a say in nothing but the burst that a turn may end
with, and this has no more than `k` copies. -/
inductive Uniform (room : Room) (k : Nat) (s : σ) (f : Carrier σ → Turn σ) : Prop
  /-- It has no say at all. -/
  | fixed (turn : Turn σ) : (∀ carrier, carrier.room = room → f carrier = turn) →
      Uniform room k s f
  /-- It has a say in a burst. -/
  | burst (m : Measurement) (as : List Action) (n : Nat) (l : Ledger) : n ≤ k →
      (∀ carrier, carrier.room = room →
        f carrier = m.conclude as (sendFrom carrier m.skeleton 1 n l s)) →
      Uniform room k s f

theorem Uniform.congr {room : Room} {k : Nat} {s : σ} {f g : Carrier σ → Turn σ}
    (h : Uniform room k s f) (heq : ∀ carrier, carrier.room = room → g carrier = f carrier) :
    Uniform room k s g := by
  rcases h with ⟨turn, h⟩ | ⟨m, as, n, l, hn, h⟩
  · exact .fixed turn fun carrier hroom => (heq carrier hroom).trans (h carrier hroom)
  · exact .burst m as n l hn fun carrier hroom => (heq carrier hroom).trans (h carrier hroom)

theorem schedule_uniform (m : Measurement) (room : Room) (as : List Action) (l : Ledger) (s : σ) :
    Uniform room (m.config.count.toNat - l.sent.size) s
      fun carrier => m.conclude as (m.schedule carrier l s) := by
  by_cases hdue : 0 < m.due l ∧ l.settled + l.inFlight.length ≠ m.config.count.toNat
  · refine .burst m as (m.due l) l (Nat.min_le_left _ _) fun carrier _ => ?_
    rw [schedule, if_pos hdue]
  · exact .fixed _ fun _ _ => by rw [schedule, if_neg hdue]

theorem start_uniform (m : Measurement) (room : Room) (s : σ) :
    Uniform room m.config.count.toNat s fun carrier => m.start carrier s := by
  cases hv : m.config.validate with
  | error cause => exact .fixed _ fun _ _ => by simp only [start, hv]; rfl
  | ok _ =>
    cases hr : room m.config.count.toNat with
    | false => exact .fixed _ fun _ hroom => by simp only [start, hv, hroom, hr]; rfl
    | true =>
      refine (schedule_uniform { m with window := m.config.window } room
        [.throwEvent m.caller .start] .empty s).congr ?_
      intro carrier hroom
      simp only [start, hv, hroom, hr]

/-- How far an answer to an event depends on the carrier. -/
theorem handle_uniform (m : Measurement) (room : Room) (e : Event) (s : σ) :
    Uniform room (m.config.count.toNat - m.sentSoFar) s fun carrier => m.handle carrier e s := by
  -- to settle a probe is not to send one
  have hsettled {l l' : Ledger} (hp : m.phase = .running l)
      (hc : l.close? m.config.target e = some l') : l'.sent.size = m.sentSoFar := by
    obtain ⟨q, hq⟩ := Ledger.closes_of_close? hc
    rw [sentSoFar, ledger?_of_running hp, hq.sent]
    rfl
  cases hp : m.phase <;> cases e <;> simp only [handle, hp]
  case created.start =>
    have hnone : m.sentSoFar = 0 := by
      rw [sentSoFar, ledger?, hp]
      rfl
    rw [hnone]
    exact start_uniform m room s
  case running.reply l x =>
    unfold takeReply
    dsimp only
    split
    · rename_i l' hc
      rw [← hsettled hp hc]
      exact schedule_uniform m room _ l' s
    · exact .fixed _ fun _ _ => rfl
  case running.timeout l p =>
    unfold takeTimeout
    split
    · rename_i l' hc
      rw [← hsettled hp hc]
      exact schedule_uniform m room _ l' s
    · exact .fixed _ fun _ _ => rfl
  all_goals exact .fixed _ fun _ _ => rfl

/-- The measurements agree in all but window and phase. -/
structure SameTask (m m' : Measurement) : Prop where
  config : m'.config = m.config
  skeleton : m'.skeleton = m.skeleton
  caller : m'.caller = m.caller

theorem handle_sameTask (m : Measurement) (carrier : Carrier σ) (e : Event) (s : σ) :
    SameTask m (m.handle carrier e s).measurement := by
  rcases handle_outline m carrier e s with ⟨-, h⟩ | ⟨w, as, l, h⟩ | h | ⟨cause, h⟩
  · rw [h]; exact ⟨rfl, rfl, rfl⟩
  · rw [h, conclude]
    cases (schedule { m with window := w } carrier l s).failure <;> exact ⟨rfl, rfl, rfl⟩
  · rw [h]; exact ⟨rfl, rfl, rfl⟩
  · rw [h]; exact ⟨rfl, rfl, rfl⟩

theorem handle_phase_ne_created (m : Measurement) (carrier : Carrier σ) (e : Event) (s : σ) :
    (m.handle carrier e s).measurement.phase ≠ .created := by
  intro h
  rcases handle_outline m carrier e s with ⟨hp, h'⟩ | ⟨w, as, l, h'⟩ | h' | ⟨cause, h'⟩
  · rw [h'] at h; exact hp h
  · rw [h', conclude] at h
    have hl := (schedule_ledger { m with window := w } carrier l s).1
    cases hf : (schedule { m with window := w } carrier l s).failure with
    | none =>
      rw [hf] at h
      change (schedule { m with window := w } carrier l s).phase = .created at h
      rw [h] at hl
      cases hl
    | some cause => rw [hf] at h; cases h
  · rw [h'] at h; cases h
  · rw [h'] at h; cases h

theorem inFlight_eq_nil_of_handle {m : Measurement} {carrier : Carrier σ} {e : Event} {s : σ}
    (hm : ∀ l, m.phase = .terminating l → l.inFlight = []) {l : Ledger}
    (h : (m.handle carrier e s).measurement.phase = .terminating l) : l.inFlight = [] := by
  rcases handle_outline m carrier e s with ⟨-, h'⟩ | ⟨w, as, l₁, h'⟩ | h' | ⟨cause, h'⟩
  · rw [h'] at h; exact hm l h
  · rw [h', conclude] at h
    cases hf : (schedule { m with window := w } carrier l₁ s).failure with
    | none => rw [hf] at h; exact inFlight_eq_nil_of_schedule h
    | some cause => rw [hf] at h; cases h
  · rw [h'] at h; cases h
  · rw [h'] at h; cases h

end Measurement

end EchoProbe
