import EchoProbe.Proofs.Tally

/-!
# Flags decorate the report

The flags are part of the configuration, which a measurement and its report share. Only the report
looks at them.

* `Measurement.handle_withFlags` and `Simulation.run_withFlags` say that a simulation does the same
  whatever the flags are;
* `Report.journal` are the lines of a report, where each line about a probe comes with the time at
  which the probe was settled; `Report.renderAll_quieter` and `Report.renderAll_timed` say what the
  flags do to them;
* `Scenario.simulate_flags` : **the flags decide what is shown, and nothing else**.
-/

namespace EchoProbe

/-! ### The measurement does not look at the flags -/

/-- The same configuration with other flags. -/
def Config.withFlags (c : Config) (f : Flags) : Config := { c with flags := f }

/-- The same measurement with other flags. -/
def Measurement.withFlags (m : Measurement) (f : Flags) : Measurement :=
  { m with config := m.config.withFlags f }

/-- The same answer from a measurement with other flags. -/
def Turn.withFlags {σ : Type} (t : Turn σ) (f : Flags) : Turn σ :=
  { t with measurement := t.measurement.withFlags f }

/-- The same simulation of a measurement with other flags. -/
def Simulation.withFlags (sim : Simulation) (f : Flags) : Simulation :=
  { sim with measurement := sim.measurement.withFlags f }

namespace Measurement

variable {σ : Type} (m : Measurement) (f : Flags)

@[simp] theorem phase_withFlags : (m.withFlags f).phase = m.phase := rfl

@[simp] theorem stage_withFlags : (m.withFlags f).stage = m.stage := rfl

@[simp] theorem target_withFlags : (m.withFlags f).config.target = m.config.target := rfl

@[simp] theorem count_withFlags : (m.withFlags f).config.count = m.config.count := rfl

@[simp] theorem validate_withFlags : (m.withFlags f).config.validate = m.config.validate := rfl

@[simp] theorem ignore_withFlags (s : σ) : (m.withFlags f).ignore s = (m.ignore s).withFlags f :=
  rfl

@[simp] theorem stop_withFlags (s : σ) : (m.withFlags f).stop s = (m.stop s).withFlags f := rfl

@[simp] theorem fail_withFlags (s : σ) (as : List Action) (e : Error) :
    (m.withFlags f).fail s as e = (m.fail s as e).withFlags f := rfl

@[simp] theorem schedule_withFlags (carrier : Carrier σ) (l : Ledger) (s : σ) :
    (m.withFlags f).schedule carrier l s = m.schedule carrier l s := rfl

@[simp] theorem conclude_withFlags (as : List Action) (p : Progress σ) :
    (m.withFlags f).conclude as p = (m.conclude as p).withFlags f := by
  unfold conclude
  cases p.failure <;> rfl

@[simp] theorem start_withFlags (carrier : Carrier σ) (s : σ) :
    (m.withFlags f).start carrier s = (m.start carrier s).withFlags f := by
  unfold start
  cases hv : m.config.validate with
  | error e => simp [hv]
  | ok _ =>
    cases hr : carrier.room m.config.count.toNat with
    | false => simp [hv, hr]
    | true =>
      simp only [validate_withFlags, count_withFlags, hv, hr]
      exact conclude_withFlags { m with window := m.config.window } f _ _

@[simp] theorem takeReply_withFlags (carrier : Carrier σ) (l : Ledger) (x : Exchange) (s : σ) :
    (m.withFlags f).takeReply carrier l x s = (m.takeReply carrier l x s).withFlags f := by
  unfold takeReply
  dsimp only [target_withFlags]
  generalize l.settleReply? x.sent _ = settled
  cases settled <;> simp

@[simp] theorem takeTimeout_withFlags (carrier : Carrier σ) (l : Ledger) (p : SentProbe) (s : σ) :
    (m.withFlags f).takeTimeout carrier l p s = (m.takeTimeout carrier l p s).withFlags f := by
  unfold takeTimeout
  cases l.settleTimeout? p <;> simp

/-- **A measurement answers an event in the same way whatever the flags are.** -/
theorem handle_withFlags (carrier : Carrier σ) (e : Event) (s : σ) :
    (m.withFlags f).handle carrier e s = (m.handle carrier e s).withFlags f := by
  cases hp : m.phase <;> cases e <;> simp [handle, hp]

end Measurement

namespace Simulation

theorem next?_withFlags (sim : Simulation) (f : Flags) :
    (sim.withFlags f).next? = sim.next?.map fun x => (x.1, x.2.withFlags f) := by
  unfold next?
  cases h : sim.pending with
  | nil =>
    cases ha : sim.world.agenda.next? <;> simp [withFlags, h, ha]
  | cons e es => simp [withFlags, h]

theorem dispatch_withFlags (carrier : Carrier World) (sim : Simulation) (e : Event) (f : Flags) :
    dispatch carrier (sim.withFlags f) e =
      ((dispatch carrier sim e).1.withFlags f, (dispatch carrier sim e).2.withFlags f) := by
  have h := sim.measurement.handle_withFlags f carrier e sim.world
  simp only [dispatch, withFlags, h]
  rfl

/-- **A run shows the same whatever the flags are.** -/
theorem run_withFlags (carrier : Carrier World) (n : Nat) (sim : Simulation) (f : Flags) :
    run carrier n (sim.withFlags f) = run carrier n sim := by
  induction n generalizing sim with
  | zero => rfl
  | succ n ih =>
    simp only [run, next?_withFlags]
    cases h : sim.next? with
    | none => rfl
    | some x =>
      simp only [Option.map_some, dispatch_withFlags, ih]
      rfl

end Simulation

/-! ### The lines of a report -/

namespace Report

/-- The same report with other flags. -/
def withFlags (r : Report) (f : Flags) : Report := { r with config := r.config.withFlags f }

/-- The same report, without lines about probes. -/
def quieter (r : Report) : Report := r.withFlags { r.config.flags with quiet := true }

/-- The same report, in which a time stands in front of each line about a probe, or of none. -/
def timed (r : Report) (b : Bool) : Report := r.withFlags { r.config.flags with timestamp := b }

/-- The line about the probe that an event settles, if it settles one. -/
def probeLine? (r : Report) : Event → Option String
  | .outward (.answered outcome e) => some (r.count.answerLine outcome e)
  | .outward (.timeout _) => some "Timeout"
  | _ => none

/-- The lines for an event that settles no probe. -/
def generalLines (r : Report) : Event → List String
  | .outward (.allProbesSent s) => r.summaryLines s
  | _ => []

/-- The time in front of a line. -/
def stamp (d : Duration) (text : String) : String :=
  "[" ++ Decimal.fixed 6 d.toSeconds ++ "] " ++ text

section

variable (r : Report) {f : Flags}

@[simp] theorem quieter_count : r.count.quieter = r.quieter.count := rfl

@[simp] theorem timed_count (b : Bool) : r.count.timed b = (r.timed b).count := rfl

theorem render_eq (d : Duration) (e : Event) :
    r.render d e = match r.probeLine? e with
      | some line => (r.count, r.probeLines d line)
      | none => (r, r.generalLines e) := by
  cases e with
  | outward f => cases f <;> rfl
  | _ => rfl

theorem probeLines_quieter (d : Duration) (line : String) : r.quieter.probeLines d line = [] := rfl

theorem probeLines_timed (h : r.config.flags.timestamp = false) (d : Duration) (line : String) :
    (r.timed true).probeLines d line = (r.probeLines d line).map (stamp d) := by
  by_cases hq : r.config.flags.quiet = true
  · simp [probeLines, timed, withFlags, Config.withFlags, hq]
  · simp [probeLines, timed, withFlags, Config.withFlags, hq, h, stamp]

theorem host_withFlags (hf : f.resolve = r.config.flags.resolve) :
    (r.withFlags f).host = r.host := by
  funext a
  simp only [host, withFlags, Config.withFlags, hf]

theorem probeLine?_withFlags (hf : f.resolve = r.config.flags.resolve) :
    (r.withFlags f).probeLine? = r.probeLine? := by
  have hhost : (r.withFlags f).count.host = r.count.host := r.count.host_withFlags hf
  funext e
  cases e with
  | outward x =>
    cases x with
    | answered outcome e =>
      simp only [probeLine?, answerLine, source, hhost]
      rfl
    | _ => rfl
  | _ => rfl

theorem generalLines_withFlags (hf : f.resolve = r.config.flags.resolve) :
    (r.withFlags f).generalLines = r.generalLines := by
  funext e
  cases e with
  | outward x =>
    cases x with
    | allProbesSent t =>
      simp only [generalLines, summaryLines, r.host_withFlags hf]
      rfl
    | _ => rfl
  | _ => rfl

theorem header_withFlags (hf : f.resolve = r.config.flags.resolve) :
    (r.withFlags f).header = r.header := by
  simp only [header, r.host_withFlags hf]
  rfl

end

/-! ### The journal -/

/-- A line of a report. -/
structure Line where
  /-- The time at which a probe was settled, if the line is about this. -/
  about : Option Duration
  /-- The text. -/
  text : String

/-- The line is about no probe. -/
def Line.isGeneral (l : Line) : Bool := l.about.isNone

/-- The line as it is shown with times. -/
def Line.stamped (l : Line) : String := l.about.elim l.text fun d => stamp d l.text

/-- The lines for an event. -/
def entries (r : Report) (x : Duration × Event) : List Line :=
  (r.render x.1 x.2).2.map fun text => ⟨(Settlement.ofEntry? x).map Settlement.time, text⟩

/-- The lines for some events. -/
def allEntries (r : Report) : List (Duration × Event) → List Line
  | [] => []
  | x :: xs => r.entries x ++ (r.render x.1 x.2).1.allEntries xs

/-- The lines of a whole report. -/
def journal (r : Report) (xs : List (Duration × Event)) : List Line :=
  ⟨none, r.header⟩ :: r.allEntries xs

section

variable (r : Report) (x : Duration × Event) (xs : List (Duration × Event))

theorem renderAll_cons :
    r.renderAll (x :: xs) = (r.render x.1 x.2).2 ++ (r.render x.1 x.2).1.renderAll xs := rfl

theorem time_ofEntry? :
    (Settlement.ofEntry? x).map Settlement.time = (r.probeLine? x.2).map fun _ => x.1 := by
  obtain ⟨d, e⟩ := x
  cases e with
  | outward f => cases f <;> rfl
  | _ => rfl

@[simp] theorem config_render : (r.render x.1 x.2).1.config = r.config := by
  rw [render_eq]
  cases r.probeLine? x.2 <;> rfl

theorem map_text_allEntries : (r.allEntries xs).map Line.text = r.renderAll xs := by
  induction xs generalizing r with
  | nil => rfl
  | cons x xs ih => simp [allEntries, entries, renderAll_cons, ih, Function.comp_def]

/-- A quiet report keeps the lines that are about no probe. -/
theorem render_quieter :
    r.quieter.render x.1 x.2 =
      ((r.render x.1 x.2).1.quieter, ((r.entries x).filter Line.isGeneral).map Line.text) := by
  have hline : r.quieter.probeLine? = r.probeLine? := r.probeLine?_withFlags rfl
  have hgeneral : r.quieter.generalLines = r.generalLines := r.generalLines_withFlags rfl
  rw [entries, render_eq, render_eq, hline, hgeneral, time_ofEntry? r]
  cases r.probeLine? x.2 with
  | some line => simp [probeLines_quieter, Line.isGeneral, List.filter_map, Function.comp_def]
  | none => simp [Line.isGeneral, List.filter_map, Function.comp_def]

theorem renderAll_quieter :
    r.quieter.renderAll xs = ((r.allEntries xs).filter Line.isGeneral).map Line.text := by
  induction xs generalizing r with
  | nil => rfl
  | cons x xs ih => simp [allEntries, renderAll_cons, render_quieter, ih]

/-- A report with times has the same lines, and the time in front of those about a probe. -/
theorem render_timed (h : r.config.flags.timestamp = false) :
    (r.timed true).render x.1 x.2 =
      ((r.render x.1 x.2).1.timed true, (r.entries x).map Line.stamped) := by
  have hline : (r.timed true).probeLine? = r.probeLine? := r.probeLine?_withFlags rfl
  have hgeneral : (r.timed true).generalLines = r.generalLines := r.generalLines_withFlags rfl
  rw [entries, render_eq, render_eq, hline, hgeneral, time_ofEntry? r]
  cases r.probeLine? x.2 with
  | some line => simp [r.probeLines_timed h, Line.stamped, Function.comp_def]
  | none => simp [Line.stamped, Function.comp_def]

theorem renderAll_timed (h : r.config.flags.timestamp = false) :
    (r.timed true).renderAll xs = (r.allEntries xs).map Line.stamped := by
  induction xs generalizing r with
  | nil => rfl
  | cons x xs ih =>
    have hx : (r.render x.1 x.2).1.config.flags.timestamp = false := by simpa using h
    simp [allEntries, renderAll_cons, render_timed, h, ih _ hx]

theorem renderAll_timed_of_quiet (h : r.config.flags.quiet = true) (b : Bool) :
    (r.timed b).renderAll xs = r.renderAll xs := by
  induction xs generalizing r with
  | nil => rfl
  | cons x xs ih =>
    have hx : (r.render x.1 x.2).1.config.flags.quiet = true := by simpa using h
    have hline : (r.timed b).probeLine? = r.probeLine? := r.probeLine?_withFlags rfl
    have hgeneral : (r.timed b).generalLines = r.generalLines := r.generalLines_withFlags rfl
    have hrender : (r.timed b).render x.1 x.2 =
        ((r.render x.1 x.2).1.timed b, (r.render x.1 x.2).2) := by
      rw [render_eq, render_eq, hline, hgeneral]
      cases r.probeLine? x.2 with
      | some line => simp [probeLines, timed, withFlags, Config.withFlags, count, h]
      | none => rfl
    rw [renderAll_cons, renderAll_cons, hrender, ih _ hx]

/-- Unless the report is quiet, there is one line for each probe settled. -/
theorem filterMap_about_allEntries (h : r.config.flags.quiet = false) :
    (r.allEntries xs).filterMap Line.about =
      (xs.filterMap Settlement.ofEntry?).map Settlement.time := by
  rw [List.map_filterMap]
  induction xs generalizing r with
  | nil => rfl
  | cons x xs ih =>
    have hx : (r.render x.1 x.2).1.config.flags.quiet = false := by simpa using h
    have hentries : (r.entries x).filterMap Line.about =
        ((Settlement.ofEntry? x).map Settlement.time).toList := by
      rw [entries, render_eq, time_ofEntry? r]
      cases r.probeLine? x.2 with
      | some line => by_cases ht : r.config.flags.timestamp = true <;> simp [probeLines, h, ht]
      | none => simp
    rw [allEntries, List.filterMap_append, hentries, ih _ hx]
    cases h : (Settlement.ofEntry? x).map Settlement.time <;> simp [h]

theorem generalLines_eq (e : Event) :
    r.generalLines e = e.summary?.toList.flatMap r.summaryLines := by
  cases e with
  | outward f => cases f <;> simp [generalLines, Event.summary?]
  | _ => rfl

theorem summary?_of_probeLine? {e : Event} {line : String} (h : r.probeLine? e = some line) :
    e.summary? = none := by
  cases e with
  | outward f => cases f <;> first | rfl | cases h
  | _ => rfl

theorem general_allEntries :
    ((r.allEntries xs).filter Line.isGeneral).map Line.text =
      (xs.filterMap (·.2.summary?)).flatMap r.summaryLines := by
  induction xs generalizing r with
  | nil => rfl
  | cons x xs ih =>
    have htally : (r.render x.1 x.2).1.summaryLines = r.summaryLines := by
      rw [render_eq]
      cases r.probeLine? x.2 <;> rfl
    have hentries : ((r.entries x).filter Line.isGeneral).map Line.text =
        x.2.summary?.toList.flatMap r.summaryLines := by
      rw [entries, render_eq, time_ofEntry? r]
      cases h : r.probeLine? x.2 with
      | some line =>
        simp [r.summary?_of_probeLine? h, Line.isGeneral, List.filter_map, Function.comp_def]
      | none => simp [generalLines_eq, Line.isGeneral, List.filter_map, Function.comp_def]
    rw [allEntries, List.filter_append, List.map_append, hentries, ih, htally]
    cases h : x.2.summary? <;> simp [h]

/-! ### Whole reports -/

theorem map_text_journal : (r.journal xs).map Line.text = r.header :: r.renderAll xs := by
  rw [journal, List.map_cons, map_text_allEntries]

theorem general_journal :
    ((r.journal xs).filter Line.isGeneral).map Line.text =
      r.header :: (xs.filterMap (·.2.summary?)).flatMap r.summaryLines := by
  rw [← general_allEntries]
  rfl

theorem lines_quieter :
    r.quieter.header :: r.quieter.renderAll xs =
      ((r.journal xs).filter Line.isGeneral).map Line.text := by
  rw [renderAll_quieter, show r.quieter.header = r.header from r.header_withFlags rfl]
  rfl

theorem lines_timed (h : r.config.flags.timestamp = false) :
    (r.timed true).header :: (r.timed true).renderAll xs = (r.journal xs).map Line.stamped := by
  rw [renderAll_timed r xs h, show (r.timed true).header = r.header from r.header_withFlags rfl]
  rfl

end

end Report

/-! ### The outcome -/

/-- The outcome without the lines of the report. -/
def Outcome.measured (o : Outcome) : Outcome := { o with lines := [] }

namespace Scenario

variable (s : Scenario)

/-- The measurement of a scenario. -/
def measurement (f : Flags) : Measurement :=
  .new (s.config f) (s.config f).echoSkeleton none

/-- The report of a scenario. -/
def report (f : Flags) : Report := { config := s.config f, hosts := s.hosts }

/-- The lines that are about to be shown. -/
def journal (room : Room) (f : Flags) : List Report.Line :=
  (s.report f).journal (s.run room (s.measurement f)).trace

theorem run_flags (room : Room) (f g : Flags) :
    s.run room (s.measurement g) = s.run room (s.measurement f) :=
  Simulation.run_withFlags _ _ (.ofMeasurement (s.measurement f)) g

theorem simulate_cases (room : Room) :
    (∃ e, ∀ f, simulate room s f = .error e) ∨
      (s.config .default).validate = .ok () ∧
        ∀ f, simulate room s f = .ok ((s.run room (s.measurement f)).outcome (s.report f)) := by
  cases hv : (s.config .default).validate with
  | error e =>
    have hb : ∀ f, Measurement.build (s.config f) none none = .error e := by
      intro f
      rw [Measurement.build, show (s.config f).validate = .error e from hv]
      rfl
    exact .inl ⟨e, fun f => simulate_of_build_eq_error room (hb f)⟩
  | ok _ =>
    have hb : ∀ f, Measurement.build (s.config f) none none = .ok (s.measurement f) := by
      intro f
      rw [Measurement.build, show (s.config f).validate = .ok () from hv]
      rfl
    by_cases hr : (s.run room (s.measurement .default)).failure = some .clockOverflow
    · refine .inl ⟨.clockOverflow, fun f => ?_⟩
      rw [simulate_of_build room (hb f), s.run_flags room .default f, if_pos hr]
    · refine .inr ⟨rfl, fun f => ?_⟩
      rw [simulate_of_build room (hb f), s.run_flags room .default f, if_neg hr]
      rfl

open Simulation in
theorem summaries_run (room : Room) {c : Config} (hv : c.validate = .ok ()) :
    ((s.run room (.new c c.echoSkeleton none)).failure = none ∧
      ∃ t, (s.run room (.new c c.echoSkeleton none)).trace.filterMap (·.2.summary?) = [t]) ∨
    (s.run room (.new c c.echoSkeleton none)).failure ≠ none ∧
      (s.run room (.new c c.echoSkeleton none)).trace.filterMap (·.2.summary?) = [] := by
  obtain ⟨ts, sim, h, hsim⟩ := exists_follows s room hv
  rw [s.run_eq_shown hv h hsim]
  rcases (Waypoint.of_follows hv h).end_cases hsim with
    ⟨-, -, hshown⟩ | ⟨fs, as, e, -, -, hshown⟩ | ⟨fs, as, -, -, hshown⟩
  · rw [hshown]
    exact .inr ⟨Option.some_ne_none _, rfl⟩
  · rw [hshown]
    exact .inr ⟨Option.some_ne_none _, filterMap_summary?_cutRun c as e⟩
  · rw [hshown]
    exact .inl ⟨rfl, c.tally as, filterMap_summary?_fullRun c as⟩

/-- What the flags do to the report of a simulation that has the outcome `o` with the flags `f`. -/
structure Decorates (room : Room) (f : Flags) (o : Outcome) : Prop where
  /-- The report shows the lines of the journal. -/
  lines : o.lines = (s.journal room f).map Report.Line.text
  /-- Unless it is quiet, there is a line for each probe settled. -/
  probes : f.quiet = false →
    (s.journal room f).filterMap Report.Line.about =
      (s.run room (s.measurement f)).settlements.map Settlement.time
  /-- A quiet report shows the same lines but for those about a probe. -/
  quiet : ∃ o', simulate room s { f with quiet := true } = .ok o' ∧
    o'.lines = ((s.journal room f).filter Report.Line.isGeneral).map Report.Line.text
  /-- Those are the header and the final tally, if the simulation comes to its end, -/
  completed : o.failure = none → ∃ t, o.summary = some t ∧
    ((s.journal room f).filter Report.Line.isGeneral).map Report.Line.text =
      (s.report f).header :: (s.report f).summaryLines t
  /-- and the header alone, if it does not. -/
  failed : o.failure ≠ none → o.summary = none ∧
    ((s.journal room f).filter Report.Line.isGeneral).map Report.Line.text = [(s.report f).header]
  /-- A report with times shows the lines of the report without, and the time in front of each line
  about a probe. -/
  timed : ∃ o', simulate room s { f with timestamp := true } = .ok o' ∧
    o'.lines = (s.journal room { f with timestamp := false }).map Report.Line.stamped

theorem decorates {room : Room} (hv : (s.config .default).validate = .ok ())
    (hs : ∀ f, simulate room s f = .ok ((s.run room (s.measurement f)).outcome (s.report f)))
    (f : Flags) : s.Decorates room f ((s.run room (s.measurement f)).outcome (s.report f)) := by
  have hgeneral := (s.report f).general_journal (s.run room (s.measurement f)).trace
  have hsummaries := s.summaries_run room (c := s.config f) hv
  refine ⟨((s.report f).map_text_journal _).symm, ?_, ⟨_, hs _, ?_⟩, ?_, ?_, ⟨_, hs _, ?_⟩⟩
  · intro hq
    exact (s.report f).filterMap_about_allEntries _ hq
  · rw [s.run_flags room f]
    exact (s.report f).lines_quieter _
  · intro hok
    rcases hsummaries with ⟨-, t, ht⟩ | ⟨hfail, -⟩
    · change (s.run room (s.measurement f)).trace.filterMap (·.2.summary?) = [t] at ht
      refine ⟨t, ?_, ?_⟩
      · show ((s.run room (s.measurement f)).trace.filterMap (·.2.summary?)).getLast? = some t
        rw [ht]
        rfl
      · rw [journal, hgeneral, ht, List.flatMap_singleton]
    · exact (hfail hok).elim
  · intro hfail
    rcases hsummaries with ⟨hok, -⟩ | ⟨-, hnone⟩
    · exact (hfail hok).elim
    · change (s.run room (s.measurement f)).trace.filterMap (·.2.summary?) = [] at hnone
      refine ⟨?_, ?_⟩
      · show ((s.run room (s.measurement f)).trace.filterMap (·.2.summary?)).getLast? = none
        rw [hnone]
        rfl
      · rw [journal, hgeneral, hnone, List.flatMap_nil]
  · rw [s.run_flags room { f with timestamp := false }]
    exact (s.report { f with timestamp := false }).lines_timed _ rfl

/-- **The flags decide what the report shows, and nothing else.** -/
theorem simulate_flags (room : Room) (f : Flags) :
    (∀ g, (simulate room s g).map Outcome.measured = (simulate room s f).map Outcome.measured) ∧
      (∀ o, simulate room s f = .ok o → s.Decorates room f o) ∧
      (f.quiet = true → ∀ b, simulate room s { f with timestamp := b } = simulate room s f) := by
  rcases s.simulate_cases room with ⟨e, he⟩ | ⟨hv, hs⟩
  · refine ⟨fun g => by rw [he, he], ?_, fun _ b => by rw [he, he]⟩
    intro o ho
    rw [he] at ho
    cases ho
  · refine ⟨?_, ?_, ?_⟩
    · intro g
      rw [hs, hs, s.run_flags room f g]
      rfl
    · intro o ho
      rw [hs] at ho
      cases ho
      exact s.decorates hv hs f
    · intro hq b
      rw [hs, hs, s.run_flags room f]
      have hlines := (s.report f).renderAll_timed_of_quiet (s.run room (s.measurement f)).trace hq b
      have hheader : ((s.report f).timed b).header = (s.report f).header :=
        (s.report f).header_withFlags rfl
      change Except.ok (Run.outcome _ ((s.report f).timed b)) = _
      rw [Run.outcome, hlines, hheader]
      rfl

theorem flags_of_overtaking :
    ∃ o, simulate .ample overtaking .default = .ok o ∧ o.failure = none ∧
      overtaking.Decorates .ample .default o ∧
      ((overtaking.journal .ample .default).filterMap Report.Line.about).map Duration.toMillis =
        [3100, 3500, 4600, 5000, 7000] ∧
      (overtaking.journal .ample .default).length = 10 ∧
      simulate .ample overtaking ⟨true, true, true⟩ =
        simulate .ample overtaking ⟨true, false, true⟩ := by
  have hgood : (overtaking.run .ample (overtaking.measurement .default)).failure = none := by
    decide +kernel
  have hb : Measurement.build (overtaking.config .default) none none =
      .ok (overtaking.measurement .default) := rfl
  have hs := simulate_of_build .ample hb
  rw [if_neg (by rw [hgood]; exact fun h => by cases h)] at hs
  exact ⟨_, hs, hgood, (overtaking.simulate_flags .ample .default).2.1 _ hs, by decide +kernel,
    by decide +kernel, (overtaking.simulate_flags .ample ⟨true, false, true⟩).2.2 rfl true⟩

end Scenario

end EchoProbe
