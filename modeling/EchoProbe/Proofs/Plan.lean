import EchoProbe.Simulation

/-!
# The plan of a simulation

When each probe is sent and when it is settled can be read off the script and the configuration:
the first probes are sent at multiples of the interval, and each later one an interval after the
settlement that makes room for it. Times are counted in nanoseconds from the start, and nothing
keeps them from growing.

* `Scenario.answer?` is what comes back for a probe before it times out, `Scenario.patience` the
  time to its settlement;
* `Scenario.plan` lists the settlements of the first probes in the order of their times, and
  `Scenario.sendingTime` is read off it;
* `Scenario.exists_slot` says that the settlement that makes room for a probe keeps its place in
  the plan;
* `Scenario.Fits` says that the clock can hold the times of a probe.
-/

namespace EchoProbe

/-! ### Slots -/

/-- The settlement of a probe, as it is planned. -/
structure Slot where
  /-- The time, in nanoseconds from the start. -/
  time : Nat
  /-- The number of the probe. -/
  number : Nat
deriving DecidableEq

namespace Slot

/-- The one is earlier than the other, or at the same time, but its probe was sent earlier. -/
def Before (x y : Slot) : Prop := x.time < y.time ∨ x.time = y.time ∧ x.number < y.number

/-- Puts a slot after those that are no later. -/
def insert (x : Slot) : List Slot → List Slot
  | [] => [x]
  | y :: rest => if y.time ≤ x.time then y :: insert x rest else x :: y :: rest

variable {x y : Slot} {ys : List Slot}

theorem Before.le (h : x.Before y) : x.time ≤ y.time := by
  rcases h with h | ⟨h, -⟩
  · exact Nat.le_of_lt h
  · exact Nat.le_of_eq h

theorem Before.asymm (h : x.Before y) : ¬y.Before x := by
  unfold Before at *
  omega

theorem before_of_le (h : x.time ≤ y.time) (hn : x.number < y.number) : x.Before y := by
  rcases Nat.lt_or_eq_of_le h with h | h
  · exact .inl h
  · exact .inr ⟨h, hn⟩

theorem perm_insert (x : Slot) (ys : List Slot) : (insert x ys).Perm (x :: ys) := by
  induction ys with
  | nil => exact .refl _
  | cons y rest ih =>
    rw [insert]
    split
    · exact (ih.cons y).trans (.swap x y rest)
    · exact .refl _

theorem pairwise_insert (h : ys.Pairwise Before) (hn : ∀ y ∈ ys, y.number < x.number) :
    (insert x ys).Pairwise Before := by
  induction ys with
  | nil => exact List.pairwise_singleton _ _
  | cons y rest ih =>
    obtain ⟨hy, hrest⟩ := List.pairwise_cons.1 h
    obtain ⟨hny, hnrest⟩ := List.forall_mem_cons.1 hn
    rw [insert]
    by_cases hle : y.time ≤ x.time
    · rw [if_pos hle, List.pairwise_cons]
      refine ⟨?_, ih hrest hnrest⟩
      intro z hz
      rcases List.mem_cons.1 ((perm_insert x rest).mem_iff.1 hz) with rfl | hz
      · exact before_of_le hle hny
      · exact hy z hz
    · rw [if_neg hle, List.pairwise_cons]
      refine ⟨?_, h⟩
      intro z hz
      have hlt : x.time < y.time := Nat.not_le.1 hle
      rcases List.mem_cons.1 hz with rfl | hz
      · exact .inl hlt
      · exact .inl (Nat.lt_of_lt_of_le hlt (hy z hz).le)

theorem getElem?_insert (h : ys.Pairwise Before) {j : Nat} (hy : ys[j]? = some y)
    (hle : y.time ≤ x.time) : (insert x ys)[j]? = some y := by
  induction ys generalizing j with
  | nil => cases hy
  | cons z rest ih =>
    obtain ⟨hz, hrest⟩ := List.pairwise_cons.1 h
    -- the first slot is no later than any other, so that `x` comes after it
    have hzx : z.time ≤ x.time := by
      rcases List.mem_cons.1 (List.mem_of_getElem? hy) with rfl | hmem
      · exact hle
      · exact Nat.le_trans (hz y hmem).le hle
    rw [insert, if_pos hzx]
    cases j with
    | zero => exact hy
    | succ j => exact ih hrest hy

end Slot

/-! ### The script -/

/-- The time at which the `k`-th probe is sent, when the earlier ones are settled as listed. -/
def Config.departure (c : Config) (k : Nat) (settled : List Slot) : Nat :=
  if k < c.window then min (k + 1) (2 ^ 32 - 1) * c.interval.nanos
  else c.interval.nanos + settled[k - c.window]?.elim 0 Slot.time

namespace Scenario

/-- What comes back for a probe before it times out, and how long this takes. -/
def answer? (s : Scenario) (timeout : Duration) (k : Nat) : Option (Duration × Probe) :=
  match s.response k with
  | .silence => none
  | .echo ms =>
    if Duration.ofMillis ms < timeout then some (.ofMillis ms, echoReply s.target) else none
  | .icmp m =>
    if Duration.ofMillis m.roundTripMs < timeout then some (.ofMillis m.roundTripMs, m.reply)
    else none

/-- The time from the sending of a probe to its settlement. -/
def patience (s : Scenario) (timeout : Duration) (k : Nat) : Duration :=
  match s.answer? timeout k with
  | some (roundTrip, _) => roundTrip
  | none => timeout

/-- The settlements of the first `k` probes, in the order of their times. -/
def plan (s : Scenario) (c : Config) : (k : Nat) → List Slot
  | 0 => []
  | k + 1 =>
    Slot.insert ⟨c.departure k (plan s c k) + (s.patience c.timeout k).nanos, k⟩ (plan s c k)

/-- The time at which a probe is to be sent. -/
def sendingTime (s : Scenario) (c : Config) (k : Nat) : Nat := c.departure k (s.plan c k)

/-- The time at which a probe is to be settled. -/
def settlingTime (s : Scenario) (c : Config) (k : Nat) : Nat :=
  s.sendingTime c k + (s.patience c.timeout k).nanos

/-- The order in which all probes are to be settled. -/
def settlingOrder (s : Scenario) (c : Config) : List Nat :=
  (s.plan c c.count.toNat).map Slot.number

/-- The clock can hold the times of the `k`-th probe if it is sent at the time `t`: a probe is
stamped when it is sent, and an answer when it comes. -/
def Fits (s : Scenario) (timeout : Duration) (k t : Nat) : Prop :=
  t < 2 ^ 63 * 10 ^ 9 ∧ t + (s.patience timeout k).nanos <
    if (s.answer? timeout k).isSome then 2 ^ 63 * 10 ^ 9 else 2 ^ 64 * 10 ^ 9

instance (s : Scenario) (timeout : Duration) (k t : Nat) : Decidable (s.Fits timeout k t) :=
  inferInstanceAs (Decidable (_ ∧ _))

/-! ### What the plan says -/

variable (s : Scenario) (c : Config)

theorem perm_plan (n : Nat) :
    (s.plan c n).Perm ((List.range n).map fun k => ⟨s.settlingTime c k, k⟩) := by
  induction n with
  | zero => exact .refl _
  | succ n ih =>
    rw [plan, List.range_succ, List.map_append]
    refine (Slot.perm_insert _ _).trans ((ih.cons _).trans ?_)
    exact (List.perm_append_singleton _ _).symm

theorem length_plan (n : Nat) : (s.plan c n).length = n := by
  rw [(s.perm_plan c n).length_eq, List.length_map, List.length_range]

theorem number_lt_of_mem_plan {n : Nat} {x : Slot} (hx : x ∈ s.plan c n) : x.number < n := by
  obtain ⟨k, hk, rfl⟩ := List.mem_map.1 ((s.perm_plan c n).mem_iff.1 hx)
  exact List.mem_range.1 hk

theorem pairwise_plan (n : Nat) : (s.plan c n).Pairwise Slot.Before := by
  induction n with
  | zero => exact .nil
  | succ n ih => exact Slot.pairwise_insert ih fun x hx => s.number_lt_of_mem_plan c hx

theorem sendingTime_of_lt {k : Nat} (hk : k < c.window) :
    s.sendingTime c k = min (k + 1) (2 ^ 32 - 1) * c.interval.nanos := if_pos hk

/-- A later probe is sent an interval after a settlement. -/
theorem sendingTime_of_slot {k : Nat} (hk : c.window ≤ k) {x : Slot}
    (hx : (s.plan c k)[k - c.window]? = some x) :
    s.sendingTime c k = c.interval.nanos + x.time := by
  rw [sendingTime, Config.departure, if_neg (Nat.not_lt.2 hk), hx]
  rfl

variable {s c}

/-- One more probe leaves the earlier settlements of the plan where they are. -/
theorem getElem?_plan_succ (hw : 0 < c.window) {n j : Nat} (hj : j + c.window ≤ n) {x : Slot}
    (hx : (s.plan c n)[j]? = some x) : (s.plan c (n + 1))[j]? = some x := by
  have hlt : n - c.window < (s.plan c n).length := by
    rw [s.length_plan]
    omega
  have hy := List.getElem?_eq_getElem hlt
  have hsend := s.sendingTime_of_slot c (by omega) hy
  -- the new probe is sent after the settlement that makes room for it, and this comes after `x`
  have hxy : x.time ≤ ((s.plan c n)[n - c.window]).time := by
    obtain ⟨hjn, rfl⟩ := List.getElem?_eq_some_iff.1 hx
    rcases Nat.lt_or_eq_of_le (show j ≤ n - c.window by omega) with h | h
    · exact (List.pairwise_iff_getElem.1 (s.pairwise_plan c n) j _ hjn hlt h).le
    · simp only [h, Nat.le_refl]
  refine Slot.getElem?_insert (s.pairwise_plan c n) hx (Nat.le_trans ?_ (Nat.le_add_right _ _))
  show x.time ≤ s.sendingTime c n
  omega

/-- **The settlement that makes room for a probe keeps its place in the plan.** -/
theorem exists_slot (hw : 0 < c.window) {k n : Nat} (hk : c.window ≤ k) (hn : k ≤ n) :
    ∃ x, (s.plan c n)[k - c.window]? = some x ∧
      s.sendingTime c k = c.interval.nanos + x.time := by
  have hlt : k - c.window < (s.plan c k).length := by
    rw [s.length_plan]
    omega
  refine ⟨_, ?_, s.sendingTime_of_slot c hk (List.getElem?_eq_getElem hlt)⟩
  induction hn with
  | refl => exact List.getElem?_eq_getElem hlt
  | step hn ih =>
    refine getElem?_plan_succ hw ?_ ih
    rw [Nat.sub_add_cancel hk]
    exact hn

end Scenario

end EchoProbe
