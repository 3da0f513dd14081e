import EchoProbe.Event

/-!
# The ledger of a measurement

A `Ledger` records the probes of a measurement and what became of them.

* `Ledger.empty` has no records yet, and `Ledger.record` enters a probe that was sent;
* `Ledger.settle?` takes a probe out of flight, `Ledger.settleReply?` and `Ledger.settleTimeout?`
  enter how it ended;
* `Ledger.summary` is the tally so far.

The probes in flight are kept in no particular order: the one that leaves has its place taken by
the last one (`swapRemove`).

A ledger grows without asking for memory. Who keeps one asks first: `Instance.sendProbes` before a
record, `Instance.recordReply` before a round trip time.
-/

namespace EchoProbe

/-- Takes out the element at an index of a list and puts the last one in its place. -/
def swapRemove {α : Type} (xs : List α) (i : Nat) : List α :=
  match xs.getLast? with
  | some last => (xs.set i last).dropLast
  | none => []

/-- Nothing is lost but the element that is taken out. -/
theorem perm_swapRemove {α : Type} {xs : List α} {i : Nat} (h : i < xs.length) :
    xs.Perm (xs[i] :: swapRemove xs i) := by
  cases hl : xs.getLast? with
  | none =>
    rw [List.getLast?_eq_none_iff] at hl
    subst hl
    exact absurd h (Nat.not_lt_zero i)
  | some z =>
    obtain ⟨ys, rfl⟩ := List.getLast?_eq_some_iff.1 hl
    rw [swapRemove, hl]
    by_cases hi : i < ys.length
    · -- the last one moves to where the other stood
      have hy : ys = ys.take i ++ ys[i] :: ys.drop (i + 1) := by
        rw [List.getElem_cons_drop, List.take_append_drop]
      have hs : ((ys ++ [z]).set i z).dropLast = ys.take i ++ z :: ys.drop (i + 1) := by
        rw [List.set_append_left _ _ hi, List.dropLast_concat, List.set_eq_take_append_cons_drop,
          if_pos hi]
      simp only [hs, List.getElem_append_left hi]
      refine List.perm_append_comm.trans ?_
      have hp : (z :: ys).Perm (z :: (ys[i] :: (ys.take i ++ ys.drop (i + 1)))) :=
        List.Perm.cons z ((List.Perm.of_eq hy).trans List.perm_middle)
      exact hp.trans ((List.Perm.swap _ _ _).trans (List.Perm.cons _ List.perm_middle.symm))
    · have hi : i = ys.length := by
        rw [List.length_append, List.length_singleton] at h
        omega
      subst hi
      simp only [List.getElem_concat_length, List.set_append_right _ _ (Nat.le_refl _),
        Nat.sub_self, List.set_cons_zero, List.dropLast_concat]
      exact List.perm_append_comm

/-- The probes of a measurement and what became of them. -/
structure Ledger where
  /-- Every probe sent so far, in order. -/
  sent : Array SentProbe
  /-- The probes that have neither been answered nor timed out. -/
  inFlight : List SentProbe
  /-- The round trip times of the replies from the target, in order. -/
  samples : Array Duration
  /-- The number of probes that have been answered or have timed out. -/
  settled : Nat
  /-- The number of probes that have timed out. -/
  losses : Nat

namespace Ledger

/-- The ledger of a measurement that has sent nothing yet. -/
def empty : Ledger := ⟨#[], [], #[], 0, 0⟩

/-- Enters a probe that was sent. -/
def record (l : Ledger) (p : SentProbe) : Ledger :=
  { l with sent := l.sent.push p, inFlight := l.inFlight ++ [p] }

/-- Where a probe stands among those in flight. -/
def position? (l : Ledger) (p : SentProbe) : Option Nat := l.inFlight.findIdx? (·.id == p.id)

/-- Takes a probe out of flight, if it is. -/
def settle? (l : Ledger) (p : SentProbe) : Option Ledger :=
  (l.position? p).map fun i =>
    { l with inFlight := swapRemove l.inFlight i, settled := l.settled + 1 }

theorem settle?_eq_none_iff {l : Ledger} {p : SentProbe} :
    l.settle? p = none ↔ ∀ q ∈ l.inFlight, q.id ≠ p.id := by
  simp [settle?, position?]

/-- A probe leaves the flight by its identity, and all others stay. -/
theorem settle?_eq_some {l l' : Ledger} {p : SentProbe} (h : l.settle? p = some l') :
    ∃ q, q.id = p.id ∧ l.inFlight.Perm (q :: l'.inFlight) ∧
      l' = { l with inFlight := l'.inFlight, settled := l.settled + 1 } := by
  obtain ⟨i, hi, rfl⟩ := Option.map_eq_some_iff.1 h
  obtain ⟨hlt, hid, -⟩ := List.findIdx?_eq_some_iff_getElem.1 hi
  exact ⟨l.inFlight[i], by simpa using hid, perm_swapRemove hlt, rfl⟩

/-- Enters that a probe in flight was answered, and the round trip time if it counts, for which
there is memory (see `Instance.recordReply`). -/
def settleReply? (l : Ledger) (p : SentProbe) (sample : Option Duration) : Option Ledger :=
  (l.settle? p).map fun l => match sample with
    | some d => { l with samples := l.samples.push d }
    | none => l

/-- Enters that a probe in flight has timed out. -/
def settleTimeout? (l : Ledger) (p : SentProbe) : Option Ledger :=
  (l.settle? p).map fun l => { l with losses := l.losses + 1 }

/-- The statistics of the round trips to the target, if there were any. -/
def statistics? (l : Ledger) : Option Statistics := Statistics.ofDurations? l.samples.toList

/-- The tally so far. -/
def summary (l : Ledger) : Summary :=
  ⟨l.sent.size, l.settled - l.losses, l.losses, l.statistics?⟩

end Ledger

end EchoProbe
