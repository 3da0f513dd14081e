import EchoProbe.Simulation
import EchoProbe.Proofs.Lifecycle

/-!
# Journeys of a simulation

A simulation handles one event after the other. `Simulation.run` does so for a number of events
that is set beforehand; a journey has no such bound.

* `Simulation.step?` handles the next event, and `Simulation.Step` says what the user sees of it;
* `Simulation.Journey` is a row of such steps, none of them after the end;
* `Simulation.shown` is what the user has seen, and `Simulation.Journey.run` says that a run shows
  what the journey to the end does, if only it may handle as many events.
-/

namespace EchoProbe

/-- What the user is told over an event, and when. -/
def Turn.told (t : Turn World) : List (Duration × Event) :=
  (t.actions.filterMap Action.forUser?).map (t.state.clock, ·)

namespace Simulation

/-- The measurement has come to its end. -/
def isFinished (sim : Simulation) : Bool := sim.measurement.stage.isFinished

/-- Handles the next event. -/
def step? (carrier : Carrier World) (sim : Simulation) : Option (Turn World × Simulation) :=
  sim.next?.map fun x => x.2.dispatch carrier x.1

/-- The next event leads from the first simulation to the second; the user is told `xs`, and
`failure` is what goes wrong. -/
def Step (carrier : Carrier World) (sim : Simulation) (xs : List (Duration × Event))
    (failure : Option Error) (sim' : Simulation) : Prop :=
  ∃ t, sim.step? carrier = some (t, sim') ∧ t.told = xs ∧ t.failure = failure

/-- Event by event from the first simulation to the last, with the answers to the events. Nothing is
handled after the end. -/
inductive Journey (carrier : Carrier World) : Simulation → List (Turn World) → Simulation → Prop
  | nil (sim : Simulation) : Journey carrier sim [] sim
  | cons {sim sim₁ sim₂ : Simulation} {t : Turn World} {ts : List (Turn World)} :
      sim.isFinished = false → sim.step? carrier = some (t, sim₁) →
      Journey carrier sim₁ ts sim₂ → Journey carrier sim (t :: ts) sim₂

/-- What a journey has shown to the user. -/
def shown (ts : List (Turn World)) (sim : Simulation) : Run :=
  ⟨ts.flatMap Turn.told, sim.world.clock, ts.getLast?.bind Turn.failure⟩

variable {carrier : Carrier World} {sim sim' sim₁ : Simulation} {t : Turn World}
  {ts : List (Turn World)}

theorem isFinished_of_stage {st : Stage} (h : sim.measurement.stage = st) :
    sim.isFinished = st.isFinished :=
  congrArg Stage.isFinished h

theorem shown_concat {xs : List (Duration × Event)} {d : Duration} {e : Option Error}
    (h : shown ts sim = ⟨xs, d, e⟩) (t : Turn World) (sim' : Simulation) :
    shown (ts ++ [t]) sim' = ⟨xs ++ t.told, sim'.world.clock, t.failure⟩ := by
  have hxs : ts.flatMap Turn.told = xs := congrArg Run.trace h
  rw [shown, List.flatMap_append, List.flatMap_singleton, hxs, List.getLast?_concat]
  rfl

/-! ### One event -/

theorem step?_of_next? {e : Event} {turn : Turn World} (hnext : sim.next? = some (e, sim₁))
    (hturn : sim₁.measurement.handle carrier e sim₁.world = turn) :
    sim.step? carrier = some (turn, ⟨turn.measurement, turn.state,
      sim₁.pending ++ turn.actions.filterMap Action.forInstance?⟩) := by
  rw [step?, hnext, Option.map_some, dispatch, hturn]

theorem step_of_next? {e : Event} {m : Measurement} {w : World} {as : List Action}
    {failure : Option Error} {us es : List Event} (hnext : sim.next? = some (e, sim₁))
    (hturn : sim₁.measurement.handle carrier e sim₁.world = ⟨m, w, as, failure⟩)
    (hus : as.filterMap Action.forUser? = us) (hes : as.filterMap Action.forInstance? = es) :
    Step carrier sim (us.map (w.clock, ·)) failure ⟨m, w, sim₁.pending ++ es⟩ := by
  subst hus hes
  exact ⟨⟨m, w, as, failure⟩, step?_of_next? hnext hturn, rfl, rfl⟩

theorem measurement_of_next? {e : Event} (h : sim.next? = some (e, sim₁)) :
    sim₁.measurement = sim.measurement ∧ sim₁.world.accepted = sim.world.accepted := by
  unfold next? at h
  split at h
  · cases h
    exact ⟨rfl, rfl⟩
  · obtain ⟨a, -, ha⟩ := Option.map_eq_some_iff.1 h
    cases ha
    exact ⟨rfl, rfl⟩

theorem exists_handle_of_step? (h : sim.step? carrier = some (t, sim')) :
    ∃ e w, t = sim.measurement.handle carrier e w ∧ sim'.measurement = t.measurement := by
  obtain ⟨⟨e, sim₁⟩, hnext, h⟩ := Option.map_eq_some_iff.1 h
  cases h
  exact ⟨e, sim₁.world, by rw [(measurement_of_next? hnext).1], rfl⟩

theorem failure_of_step? (hsim : sim.isFinished = false)
    (h : sim.step? carrier = some (t, sim')) :
    (t.failure.isSome = true ↔ sim'.measurement.stage = .errored) ∧
      ((∃ a ∈ t.actions, a.isFailure = true) ↔ sim'.measurement.stage = .errored) := by
  obtain ⟨e, w, rfl, hm⟩ := exists_handle_of_step? h
  rw [hm]
  exact ⟨Measurement.isSome_failure_iff hsim w,
    (Measurement.handle_passage ..).failure_iff hsim⟩

theorem run_of_step? (hsim : sim.isFinished = false) (h : sim.step? carrier = some (t, sim'))
    (n : Nat) : run carrier (n + 1) sim =
      if sim'.isFinished then ⟨t.told, sim'.world.clock, t.failure⟩
      else { run carrier n sim' with trace := t.told ++ (run carrier n sim').trace } := by
  have hfail := (failure_of_step? hsim h).1
  obtain ⟨-, -, -, hm⟩ := exists_handle_of_step? h
  have hend : (t.failure.isSome || t.measurement.stage.isFinished) = sim'.isFinished := by
    rw [isFinished, ← hm, Bool.or_eq_right_iff_imp]
    intro hf
    exact isFinished_of_stage (hfail.1 hf)
  obtain ⟨⟨e, sim₁⟩, hnext, hd⟩ := Option.map_eq_some_iff.1 h
  rw [run, hnext]
  dsimp only at hd ⊢
  rw [hd]
  dsimp only
  rw [hend]
  cases hd
  rfl

/-! ### Many events -/

namespace Journey

theorem append {ts' : List (Turn World)} (h : Journey carrier sim ts sim₁)
    (h' : Journey carrier sim₁ ts' sim') : Journey carrier sim (ts ++ ts') sim' := by
  induction h with
  | nil => exact h'
  | cons hsim hstep _ ih => exact .cons hsim hstep (ih h')

theorem concat (h : Journey carrier sim ts sim₁) (hsim : sim₁.isFinished = false)
    (hstep : sim₁.step? carrier = some (t, sim')) : Journey carrier sim (ts ++ [t]) sim' :=
  h.append (.cons hsim hstep (.nil sim'))

theorem invariant {P : List (Turn World) → Simulation → Prop} (h : Journey carrier sim ts sim')
    (h₀ : P [] sim) (hstep : ∀ ts sim t sim', P ts sim → sim.isFinished = false →
      sim.step? carrier = some (t, sim') → P (ts ++ [t]) sim') : P ts sim' := by
  -- the turns before any point of the journey are carried along
  have key : ∀ ts₀, P ts₀ sim → P (ts₀ ++ ts) sim' := by
    clear h₀
    induction h with
    | nil =>
      intro ts₀ h₀
      rwa [List.append_nil]
    | @cons sim sim₁ sim₂ t ts hsim hs _ ih =>
      intro ts₀ h₀
      rw [List.append_cons]
      exact ih _ (hstep ts₀ sim t sim₁ h₀ hsim hs)
  exact key [] h₀

/-- There is a failure at the end exactly when the measurement has failed, and then the loop has
been told so. -/
theorem failure_iff (h : Journey carrier sim ts sim') (hsim : sim.isFinished = false) :
    ((shown ts sim').failure.isSome = true ↔ sim'.measurement.stage = .errored) ∧
      ((∃ t ∈ ts, ∃ a ∈ t.actions, a.isFailure = true) ↔
        sim'.measurement.stage = .errored) := by
  have hne : ∀ {sim : Simulation}, sim.isFinished = false → sim.measurement.stage ≠ .errored :=
    fun hsim hst => by cases hsim.symm.trans (isFinished_of_stage hst)
  refine h.invariant (P := fun ts sim' =>
    ((shown ts sim').failure.isSome = true ↔ sim'.measurement.stage = .errored) ∧
      ((∃ t ∈ ts, ∃ a ∈ t.actions, a.isFailure = true) ↔ sim'.measurement.stage = .errored)) ?_ ?_
  · exact ⟨iff_of_false Bool.false_ne_true (hne hsim),
      iff_of_false (fun ⟨_, ht, _⟩ => by cases ht) (hne hsim)⟩
  · rintro ts sim t sim' ⟨-, hbefore⟩ hsim hstep
    obtain ⟨hfail, hraise⟩ := failure_of_step? hsim hstep
    have hquiet : ¬∃ t ∈ ts, ∃ a ∈ t.actions, a.isFailure = true :=
      fun h => hne hsim (hbefore.1 h)
    constructor
    · rw [shown_concat (rfl : shown ts sim = ⟨_, _, _⟩)]
      exact hfail
    · rw [← hraise]
      constructor
      · rintro ⟨t', ht', h⟩
        rcases List.mem_append.1 ht' with ht' | ht'
        · exact (hquiet ⟨t', ht', h⟩).elim
        · rwa [List.mem_singleton.1 ht'] at h
      · intro h
        exact ⟨t, List.mem_append_right _ (List.mem_singleton.2 rfl), h⟩

theorem eq_nil_of_isFinished (h : Journey carrier sim ts sim') (hsim : sim.isFinished = true) :
    ts = [] ∧ sim' = sim := by
  cases h with
  | nil => exact ⟨rfl, rfl⟩
  | cons hsim' =>
    rw [hsim] at hsim'
    cases hsim'

theorem ne_nil (h : Journey carrier sim ts sim') (hsim : sim.isFinished = false)
    (hsim' : sim'.isFinished = true) : ts ≠ [] := by
  rintro rfl
  cases h
  rw [hsim] at hsim'
  cases hsim'

theorem exists_rest {ts' : List (Turn World)} (h : Journey carrier sim ts sim₁)
    (h' : Journey carrier sim ts' sim') (hsim' : sim'.isFinished = true) :
    ∃ rest, ts' = ts ++ rest ∧ Journey carrier sim₁ rest sim' := by
  induction h generalizing ts' with
  | nil => exact ⟨ts', rfl, h'⟩
  | @cons sim sim₁ sim₂ t ts hsim hstep _ ih =>
    cases h' with
    | nil =>
      rw [hsim] at hsim'
      cases hsim'
    | cons _ hstep' hrest =>
      -- the next event is the same
      cases hstep.symm.trans hstep'
      obtain ⟨rest, rfl, hjourney⟩ := ih hrest
      exact ⟨rest, rfl, hjourney⟩

/-- **A run shows what the journey to the end shows**, whatever the number of events that it might
have handled. -/
theorem run (h : Journey carrier sim ts sim') (hsim : sim.isFinished = false)
    (hsim' : sim'.isFinished = true) {n : Nat} (hn : ts.length ≤ n) :
    run carrier n sim = shown ts sim' := by
  induction h generalizing n with
  | nil =>
    rw [hsim] at hsim'
    cases hsim'
  | @cons sim sim₁ sim₂ t ts _ hstep hrest ih =>
    obtain ⟨n, rfl⟩ : ∃ k, n = k + 1 := ⟨n - 1, by rw [List.length_cons] at hn; omega⟩
    rw [run_of_step? hsim hstep]
    cases hfin : sim₁.isFinished with
    | true =>
      obtain ⟨rfl, rfl⟩ := hrest.eq_nil_of_isFinished hfin
      rw [if_pos rfl, shown, List.flatMap_singleton]
      rfl
    | false =>
      have hne := hrest.ne_nil hfin hsim'
      rw [if_neg Bool.false_ne_true, ih hfin hsim' (Nat.le_of_succ_le_succ hn), shown, shown,
        List.flatMap_cons, List.getLast?_cons_of_ne_nil hne]

/-- A simulation that goes on until it is finished, but for no more than `n` events, comes to its
end. -/
theorem exists_finished {n : Nat}
    (hgo : ∀ ts sim', Journey carrier sim ts sim' → sim'.isFinished = false →
      ∃ x, sim'.step? carrier = some x)
    (hn : ∀ ts sim', Journey carrier sim ts sim' → ts.length ≤ n) :
    ∃ ts sim', Journey carrier sim ts sim' ∧ sim'.isFinished = true := by
  -- otherwise there would be a journey of any length
  by_contra hnever
  have hlong : ∀ k, ∃ ts sim', Journey carrier sim ts sim' ∧ ts.length = k := by
    intro k
    induction k with
    | zero => exact ⟨[], sim, .nil sim, rfl⟩
    | succ k ih =>
      obtain ⟨ts, sim', h, rfl⟩ := ih
      have hsim' : sim'.isFinished = false :=
        Bool.eq_false_iff.2 fun hfin => hnever ⟨ts, sim', h, hfin⟩
      obtain ⟨⟨t, sim₁⟩, hstep⟩ := hgo ts sim' h hsim'
      exact ⟨ts ++ [t], sim₁, h.concat hsim' hstep, List.length_append⟩
  obtain ⟨ts, sim', h, hlen⟩ := hlong (n + 1)
  have := hn ts sim' h
  omega

end Journey

end Simulation

end EchoProbe
