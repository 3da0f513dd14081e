import EchoProbe.Proofs.Decoration

/-!
# The numbers in a report

A report counts the probes that are settled, and gives each line about an answer its number.

* `Report.pages` are the lines of a report, event by event; `Report.getElem?_pages` says that those
  of an event are rendered by the report after the events before it;
* `Report.Page` says what the lines of an event are, where it is known how many probes are settled
  with it;
* `Report.Numbered` is what holds of the lines for any events, and `Scenario.Filled` of those of a
  simulation that comes to its end; `reports_numbered` says that both do.
-/

namespace EchoProbe

/-! ### Settling events -/

namespace Event

/-- The event tells that a probe is settled. -/
def settles : Event → Bool
  | outward f => f.settles
  | _ => false

/-- The event brings a tally. -/
def tallies (e : Event) : Bool := e.summary?.isSome

/-- The event brings a tally with statistics. -/
def measures (e : Event) : Bool := (e.summary?.bind Summary.roundTrips).isSome

end Event

/-- The number of settlements among some events. -/
def settledBy (xs : List (Duration × Event)) : Nat := xs.countP (·.2.settles)

theorem isSome_settlement (x : Duration × Event) :
    (Settlement.ofEntry? x).isSome = x.2.settles := by
  obtain ⟨d, e⟩ := x
  cases e with
  | outward f => cases f <;> rfl
  | _ => rfl

theorem Run.settledBy_trace (r : Run) : settledBy r.trace = r.settlements.length := by
  rw [settledBy, settlements, List.length_filterMap_eq_countP]
  simp only [isSome_settlement]

namespace Report

/-! ### Pages -/

/-- The lines for each of some events. -/
def pages (r : Report) : List (Duration × Event) → List (List String)
  | [] => []
  | x :: xs => (r.render x.1 x.2).2 :: (r.render x.1 x.2).1.pages xs

/-- The report after some events. -/
def after (r : Report) (xs : List (Duration × Event)) : Report :=
  xs.foldl (fun r x => (r.render x.1 x.2).1) r

section

variable (r : Report) (d : Duration) (e : Event) (xs : List (Duration × Event))

theorem flatten_pages : (r.pages xs).flatten = r.renderAll xs := by
  induction xs generalizing r with
  | nil => rfl
  | cons x xs ih => rw [pages, List.flatten_cons, ih, renderAll_cons]

@[simp] theorem length_pages : (r.pages xs).length = xs.length := by
  induction xs generalizing r with
  | nil => rfl
  | cons x xs ih => rw [pages, List.length_cons, ih, List.length_cons]

/-- The page of an event is rendered by the report after the events before it. -/
theorem getElem?_pages (i : Nat) :
    (r.pages xs)[i]? = xs[i]?.map fun x => ((r.after (xs.take i)).render x.1 x.2).2 := by
  induction xs generalizing r i with
  | nil => rfl
  | cons x xs ih =>
    cases i with
    | zero => rfl
    | succ i => exact ih _ i

theorem render_fst : (r.render d e).1 = { r with settled := r.settled + settledBy [(d, e)] } := by
  cases e with
  | outward f => cases f <;> rfl
  | _ => rfl

theorem after_eq : r.after xs = { r with settled := r.settled + settledBy xs } := by
  induction xs generalizing r with
  | nil => rfl
  | cons x xs ih =>
    have hcount : settledBy ([x] ++ xs) = settledBy [x] + settledBy xs := List.countP_append
    rw [List.singleton_append] at hcount
    rw [hcount, ← Nat.add_assoc]
    change (r.render x.1 x.2).1.after xs = _
    rw [ih, render_fst]

end

/-! ### What a page says -/

/-- What a line about an answered probe says before its number, -/
def foreword (r : Report) (outcome : Classification) (e : Exchange) : String :=
  match outcome with
  | .reached => toString e.reply.size ++ " bytes from " ++ r.source e.reply
  | _ => "From " ++ r.source e.reply

/-- and behind it. -/
def afterword (r : Report) (outcome : Classification) (e : Exchange) : String :=
  match outcome with
  | .reached =>
    "ttl=" ++ toString r.config.maxTtl.toNat ++ " time=" ++
      Decimal.fixed 3 (e.roundTrip?.elim 0 Duration.toFractionalMillis) ++ " ms"
  | _ => outcome.wording

/-- A line about a probe, as it is shown in a report that is not quiet. -/
def marked (r : Report) (d : Duration) (line : String) : String :=
  if r.config.flags.timestamp then stamp d line else line

/-- The lines for an event after some time, with which `k` probes are settled. -/
inductive Page (r : Report) (k : Nat) (d : Duration) : Event → List String → Prop
  /-- In a quiet report, there is no line about a probe. -/
  | hidden {f : Finding} : r.config.flags.quiet = true → f.settles = true →
      Page r k d (.outward f) []
  /-- An answer has one, with the number in it, -/
  | answered {outcome : Classification} {e : Exchange} : r.config.flags.quiet = false →
      Page r k d (.outward (.answered outcome e))
        [r.marked d (r.foreword outcome e ++ " : seq=" ++ toString k ++ " " ++
          r.afterword outcome e)]
  /-- and a timeout has one without. -/
  | timeout {sent : SentProbe} : r.config.flags.quiet = false →
      Page r k d (.outward (.timeout sent)) [r.marked d "Timeout"]
  /-- A tally is never hidden. -/
  | tally {t : Summary} : Page r k d (.outward (.allProbesSent t)) (r.summaryLines t)
  /-- Nothing else is shown. -/
  | blank {e : Event} : e.settles = false → e.tallies = false → Page r k d e []

/-- The number stands between two texts in which it does not count. -/
theorem answerLine_eq (r : Report) (outcome : Classification) (e : Exchange) :
    r.answerLine outcome e =
      r.foreword outcome e ++ " : seq=" ++ toString r.settled ++ " " ++ r.afterword outcome e := by
  cases outcome with
  | reached =>
    cases h : e.roundTrip? <;>
      simp only [answerLine, foreword, afterword, h, Option.elim, String.append_assoc] <;> rfl
  | _ => simp only [answerLine, foreword, afterword, String.append_assoc]

theorem probeLines_eq (r : Report) (d : Duration) (line : String) :
    r.probeLines d line = if r.config.flags.quiet then [] else [r.marked d line] := by
  unfold probeLines marked
  split
  · rfl
  · split <;> rfl

theorem length_summaryLines (r : Report) (t : Summary) :
    (r.summaryLines t).length = 3 + if t.roundTrips.isSome then 1 else 0 := by
  rw [summaryLines]
  cases t.roundTrips <;> rfl

theorem length_probeLines (r : Report) (d : Duration) (line : String) :
    (r.probeLines d line).length = if r.config.flags.quiet then 0 else 1 := by
  rw [probeLines_eq]
  split <;> rfl

/-- **A page shows the number of probes settled with it.** -/
theorem page_render (r : Report) (n : Nat) (d : Duration) (e : Event) :
    r.Page (n + settledBy [(d, e)]) d e ({ r with settled := n }.render d e).2 := by
  cases e with
  | outward f =>
    cases f with
    | answered outcome e =>
      change r.Page _ d _ (({ r with settled := n + 1 } : Report).probeLines d _)
      rw [probeLines_eq, answerLine_eq]
      split
      · rename_i hq
        exact .hidden hq rfl
      · rename_i hq
        exact .answered (Bool.eq_false_iff.2 hq)
    | timeout sent =>
      change r.Page _ d _ (({ r with settled := n + 1 } : Report).probeLines d _)
      rw [probeLines_eq]
      split
      · rename_i hq
        exact .hidden hq rfl
      · rename_i hq
        exact .timeout (Bool.eq_false_iff.2 hq)
    | allProbesSent t => exact .tally
    | wait => exact .blank rfl rfl
  | _ => exact .blank rfl rfl

theorem length_render (r : Report) (d : Duration) (e : Event) :
    (r.render d e).2.length =
      (if r.config.flags.quiet then 0 else if e.settles then 1 else 0) +
        3 * (if e.tallies then 1 else 0) + if e.measures then 1 else 0 := by
  cases e with
  | outward f =>
    cases f with
    | answered | timeout => exact r.count.length_probeLines d _
    | allProbesSent t =>
      change (r.summaryLines t).length =
        (if r.config.flags.quiet = true then 0 else 0) + 3 + if t.roundTrips.isSome then 1 else 0
      rw [ite_self, Nat.zero_add, length_summaryLines]
    | wait => exact (ite_self 0).symm
  | _ => exact (ite_self 0).symm

theorem length_renderAll (r : Report) (xs : List (Duration × Event)) :
    (r.renderAll xs).length =
      (if r.config.flags.quiet then 0 else settledBy xs) +
        3 * xs.countP (·.2.tallies) + xs.countP (·.2.measures) := by
  induction xs generalizing r with
  | nil => exact (ite_self 0).symm
  | cons x xs ih =>
    rw [renderAll_cons, List.length_append, ih, config_render, length_render, settledBy, settledBy,
      List.countP_cons, List.countP_cons, List.countP_cons]
    split <;> omega

/-- What comes between settlements does not change their pages. -/
theorem pages_filter_settles (r : Report) (xs : List (Duration × Event)) :
    r.pages (xs.filter (·.2.settles)) =
      ((xs.zip (r.pages xs)).filter (·.1.2.settles)).map Prod.snd := by
  induction xs generalizing r with
  | nil => rfl
  | cons x xs ih =>
    cases h : x.2.settles with
    | true => simp [pages, h, ih]
    | false =>
      have hstays : (r.render x.1 x.2).1 = r := by
        rw [render_fst, settledBy, List.countP_singleton, h]
        rfl
      simp [pages, h, ih, hstays]

/-- The lines for some events. -/
structure Numbered (r : Report) (xs : List (Duration × Event)) : Prop where
  /-- They are the pages of the events, one after the other. -/
  whole : r.renderAll xs = (r.pages xs).flatten
  each : (r.pages xs).length = xs.length
  /-- The page of an event shows the number of settlements up to and with it, -/
  page (i : Nat) (d : Duration) (e : Event) : xs[i]? = some (d, e) →
    ∃ lines, (r.pages xs)[i]? = some lines ∧
      r.Page (r.settled + settledBy (xs.take (i + 1))) d e lines
  /-- and the report has counted them all. -/
  counted : r.after xs = { r with settled := r.settled + settledBy xs }
  /-- The pages of settlements are the same without all that comes in between. -/
  between : r.pages (xs.filter (·.2.settles)) =
    ((xs.zip (r.pages xs)).filter (·.1.2.settles)).map Prod.snd
  /-- A tally has three lines, and one more if it has statistics. -/
  tally (t : Summary) : (r.summaryLines t).length = 3 + if t.roundTrips.isSome then 1 else 0
  /-- There are no lines but those of the tallies and, unless the report is quiet, one for each
  settlement. -/
  length : (r.renderAll xs).length =
    (if r.config.flags.quiet then 0 else settledBy xs) +
      3 * xs.countP (·.2.tallies) + xs.countP (·.2.measures)

theorem numbered (r : Report) (xs : List (Duration × Event)) : r.Numbered xs where
  whole := (r.flatten_pages xs).symm
  each := r.length_pages xs
  page i d e hi := by
    have htake : settledBy (xs.take (i + 1)) = settledBy (xs.take i) + settledBy [(d, e)] := by
      rw [settledBy, List.take_add_one, hi, List.countP_append]
      rfl
    have hpage := r.page_render (r.settled + settledBy (xs.take i)) d e
    rw [Nat.add_assoc, ← htake, ← after_eq] at hpage
    refine ⟨_, ?_, hpage⟩
    rw [getElem?_pages, hi, Option.map_some]
  counted := r.after_eq xs
  between := r.pages_filter_settles xs
  tally := r.length_summaryLines
  length := r.length_renderAll xs

/-- A timeout is counted, though it shows no number. -/
example :
    let r : Report := { config := { target := .v4 ⟨1, by decide⟩ }, hosts := Hosts.empty }
    let e : Exchange := ⟨⟨0, .empty⟩, .empty⟩
    r.renderAll [(.zero, .outward (.answered .redirect e)), (.zero, .outward (.timeout e.sent)),
        (.zero, .outward .wait), (.zero, .outward (.answered .hostUnreachable e))] =
      ["From ? : seq=1 redirect", "Timeout", "From ? : seq=3 host unreachable"] := by
  decide +kernel

end Report

/-! ### Simulations -/

namespace Scenario

/-- How many lines a simulation has that comes to its end and is not quiet. -/
structure Filled (s : Scenario) (c : Config) (o : Outcome) : Prop where
  /-- There is a line for the header and one for each probe, and three for the tally, if no reply
  from the target was sampled, -/
  unsampled : (∀ k < c.count.toNat, s.sample? c.timeout k = none) →
    o.lines.length = 1 + c.count.toNat + 3
  /-- and else one more. -/
  sampled : (∃ k < c.count.toNat, s.sample? c.timeout k ≠ none) →
    o.lines.length = 1 + c.count.toNat + 3 + 1

/-- A run that does not fail settles all probes, and has one tally. -/
theorem exists_completed {s : Scenario} {room : Room} {c : Config} (hv : c.validate = .ok ())
    (hr : (s.run room (.new c c.echoSkeleton none)).failure = none) :
    ∃ fs as, Completed s c fs as ∧ s.run room (.new c c.echoSkeleton none) = c.fullRun as := by
  cases hroom : room c.count.toNat with
  | true =>
    rcases s.run_cases hv hroom with ⟨fs, as, w, e, -, h⟩ | h
    · rw [h] at hr
      cases hr
    · exact h
  | false =>
    rw [s.failure_run_of_crowded hv hroom] at hr
    cases hr

end Scenario

theorem countP_tallies (xs : List (Duration × Event)) :
    xs.countP (·.2.tallies) = (xs.filterMap (·.2.summary?)).length :=
  List.length_filterMap_eq_countP.symm

theorem countP_measures (xs : List (Duration × Event)) :
    xs.countP (·.2.measures) =
      (xs.filterMap (·.2.summary?)).countP (·.roundTrips.isSome) := by
  rw [List.countP_filterMap]
  refine List.countP_congr fun x _ => ?_
  rw [Event.measures]
  cases x.2.summary? <;> rfl

namespace Completed

variable {s : Scenario} {c : Config} {fs : List Flight} {as : List Appointment}

theorem length_renderAll (h : Completed s c fs as) (r : Report)
    (hq : r.config.flags.quiet = false) :
    (r.renderAll (c.fullRun as).trace).length =
      c.count.toNat + 3 + if (c.tally as).roundTrips.isSome then 1 else 0 := by
  have hsettled : settledBy (c.fullRun as).trace = c.count.toNat := by
    rw [Run.settledBy_trace, ← List.length_map (f := Settlement.slot), h.map_slot_settlements,
      Scenario.length_plan]
  rw [Report.length_renderAll, hq, hsettled, countP_tallies, countP_measures,
    filterMap_summary?_fullRun, List.countP_singleton]
  rfl

theorem filled (h : Completed s c fs as) (ht : c.target = s.target) {r : Report}
    (hq : r.config.flags.quiet = false) : s.Filled c ((c.fullRun as).outcome r) := by
  have hlines : ((c.fullRun as).outcome r).lines.length = 1 + (c.count.toNat + 3 +
      if (c.tally as).roundTrips.isSome then 1 else 0) := by
    rw [← h.length_renderAll r hq, Nat.add_comm]
    rfl
  obtain ⟨t, htally, -, -, -, hnone, -⟩ := (h.tally ht r).summary
  -- the one tally is the last
  have hlast : ((c.fullRun as).outcome r).summary = some (c.tally as) :=
    congrArg List.getLast? (filterMap_summary?_fullRun c as)
  rw [hlast, Option.some.injEq] at htally
  subst htally
  refine ⟨fun hno => ?_, fun ⟨k, hk, hsome⟩ => ?_⟩
  · rw [hlines, hnone.2 hno]
    rfl
  · have hsampled : (c.tally as).roundTrips.isSome = true := by
      rw [Option.isSome_iff_ne_none]
      exact fun hno => hsome (hnone.1 hno k hk)
    rw [hlines, if_pos hsampled]
    rfl

end Completed

/-- **The lines of a report are numbered by the settlements**, whatever the flags and whatever comes
in between; and a simulation that comes to its end has a line for each probe. -/
theorem reports_numbered :
    (∀ (r : Report) (xs : List (Duration × Event)), r.Numbered xs) ∧
      ∀ (s : Scenario) (room : Room) (f : Flags) (o : Outcome), simulate room s f = .ok o →
        o.failure = none → f.quiet = false → s.Filled (s.config f) o := by
  refine ⟨Report.numbered, fun s room f o ho hfailure hquiet => ?_⟩
  rcases s.simulate_cases room with ⟨e, he⟩ | ⟨hv, hs⟩
  · rw [he] at ho
    cases ho
  · rw [hs] at ho
    cases ho
    obtain ⟨fs, as, h, hrun⟩ := s.exists_completed (c := s.config f) hv hfailure
    change s.Filled _ ((s.run room (.new (s.config f) (s.config f).echoSkeleton none)).outcome _)
    rw [hrun]
    exact h.filled rfl hquiet

open Scenario in
theorem numbered_overtaking :
    ∃ o, simulate .ample overtaking .default = .ok o ∧ o.failure = none ∧
      overtaking.Filled (overtaking.config .default) o ∧ o.lines.length = 1 + 5 + 3 + 1 := by
  have hgood : (overtaking.run .ample (overtaking.measurement .default)).failure = none := by
    decide +kernel
  have hb : Measurement.build (overtaking.config .default) none none =
      .ok (overtaking.measurement .default) := rfl
  have hs := simulate_of_build .ample hb
  rw [if_neg (by rw [hgood]; exact fun h => by cases h)] at hs
  have hfilled := reports_numbered.2 overtaking .ample .default _ hs hgood rfl
  exact ⟨_, hs, hgood, hfilled, hfilled.sampled ⟨0, by decide, by decide +kernel⟩⟩

end EchoProbe
