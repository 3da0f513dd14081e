import EchoProbe.Measurement
import Mathlib.Data.List.Induction
import Mathlib.Data.Prod.Lex

/-!
# The extremes of some samples

The least and the greatest of some samples are found in one scan, which takes two elements at a
time and compares only the lesser with the bound below and only the greater with the one above.

* `Ranks` says that a comparison is a strict weak order on a list, `Least` that no other element of
  a list comes before one of them, and `Spans` that a pair holds a least and a greatest;
* `Spans.merge` joins the bounds of two lists, and each turn of the scan is a merge, so that the
  scan keeps them (`Spans.widen`) and ends with those of the whole list (`spans_extremes`);
* `ranks_float` says that floats are ranked by their own comparison if all of them are numbers;
* **`samples_spanned`** says all this of the statistics, which fail exactly without samples.
-/

namespace EchoProbe

variable {α : Type} {lt : α → α → Bool} {xs ys : List α} {x y z : α} {b c : α × α}

/-! ### Orders with ties -/

/-- Neither of two elements comes before the other. -/
def Tied (lt : α → α → Bool) (x y : α) : Prop := lt x y = false ∧ lt y x = false

/-- A comparison is a strict weak order on some elements. -/
structure Ranks (lt : α → α → Bool) (xs : List α) : Prop where
  /-- No element comes before itself. -/
  irrefl (x : α) : x ∈ xs → lt x x = false
  trans (x y z : α) : x ∈ xs → y ∈ xs → z ∈ xs → lt x y = true → lt y z = true → lt x z = true
  /-- Two elements that are tied with a third are tied. -/
  tied (x y z : α) : x ∈ xs → y ∈ xs → z ∈ xs → Tied lt x y → Tied lt y z → Tied lt x z

namespace Ranks

theorem mono (h : Ranks lt ys) (hsub : xs ⊆ ys) : Ranks lt xs where
  irrefl x hx := h.irrefl x (hsub hx)
  trans x y z hx hy hz := h.trans x y z (hsub hx) (hsub hy) (hsub hz)
  tied x y z hx hy hz := h.tied x y z (hsub hx) (hsub hy) (hsub hz)

theorem flip (h : Ranks lt xs) : Ranks (fun x y => lt y x) xs where
  irrefl := h.irrefl
  trans x y z hx hy hz hxy hyz := h.trans z y x hz hy hx hyz hxy
  tied x y z hx hy hz hxy hyz := h.tied z y x hz hy hx hyz hxy

theorem asymm (h : Ranks lt xs) (hx : x ∈ xs) (hy : y ∈ xs) (hxy : lt x y = true) :
    lt y x = false := by
  by_contra hyx
  have hxx := h.trans x y x hx hy hx hxy (by simpa using hyx)
  rw [h.irrefl x hx] at hxx
  cases hxx

theorem not_lt_trans (h : Ranks lt xs) (hx : x ∈ xs) (hy : y ∈ xs) (hz : z ∈ xs)
    (hxy : lt x y = false) (hyz : lt y z = false) : lt x z = false := by
  by_contra hxz
  have hxz : lt x z = true := by simpa using hxz
  -- either comparison the other way round would close a circle
  have hyx : lt y x = false := by
    by_contra hyx
    have := h.trans y x z hy hx hz (by simpa using hyx) hxz
    rw [hyz] at this
    cases this
  have hzy : lt z y = false := by
    by_contra hzy
    have := h.trans x z y hx hz hy hxz (by simpa using hzy)
    rw [hxy] at this
    cases this
  have hnot := (h.tied x y z hx hy hz ⟨hxy, hyx⟩ ⟨hyz, hzy⟩).1
  rw [hxz] at hnot
  cases hnot

theorem of_place {β : Type} [LinearOrder β] (place : α → β)
    (hplace : ∀ x ∈ xs, ∀ y ∈ xs, (lt x y = true ↔ place x < place y)) : Ranks lt xs := by
  have hnot : ∀ x ∈ xs, ∀ y ∈ xs, (lt x y = false ↔ place y ≤ place x) := fun x hx y hy => by
    rw [← Bool.not_eq_true, hplace x hx y hy, not_lt]
  refine ⟨fun x hx => (hnot x hx x hx).2 le_rfl, fun x y z hx hy hz hxy hyz => ?_,
    fun x y z hx hy hz hxy hyz => ?_⟩
  · rw [hplace x hx y hy] at hxy
    rw [hplace y hy z hz] at hyz
    exact (hplace x hx z hz).2 (hxy.trans hyz)
  · rw [Tied, hnot x hx y hy, hnot y hy x hx] at hxy
    rw [Tied, hnot y hy z hz, hnot z hz y hy] at hyz
    rw [Tied, hnot x hx z hz, hnot z hz x hx]
    exact ⟨hyz.1.trans hxy.1, hxy.2.trans hyz.2⟩

end Ranks

/-! ### Least elements -/

/-- An element of a list before which no other comes. -/
structure Least (lt : α → α → Bool) (xs : List α) (x : α) : Prop where
  mem : x ∈ xs
  not_lt (y : α) : y ∈ xs → lt y x = false

namespace Least

theorem singleton (h : Ranks lt [x]) : Least lt [x] x :=
  ⟨List.mem_cons_self, fun y hy => by
    rw [List.mem_singleton.1 hy]
    exact h.irrefl x List.mem_cons_self⟩

/-- The least element of a list is that of a longer one, if no least element of the rest comes
before it. -/
theorem append (hx : Least lt xs x) (hy : Least lt ys y) (hyx : lt y x = false)
    (h : Ranks lt (xs ++ ys)) : Least lt (xs ++ ys) x := by
  have hmem := List.mem_append_left ys hx.mem
  refine ⟨hmem, fun z hz => ?_⟩
  rcases List.mem_append.1 hz with hz' | hz'
  · exact hx.not_lt z hz'
  · exact h.not_lt_trans hz (List.mem_append_right xs hy.mem) hmem (hy.not_lt z hz') hyx

theorem append_comm (h : Least lt (xs ++ ys) x) : Least lt (ys ++ xs) x :=
  ⟨List.mem_append.2 (List.mem_append.1 h.mem).symm,
    fun y hy => h.not_lt y (List.mem_append.2 (List.mem_append.1 hy).symm)⟩

end Least

/-! ### The scan -/

/-- A pair holds a least and a greatest element of a list. -/
structure Spans (lt : α → α → Bool) (xs : List α) (b : α × α) : Prop where
  least : Least lt xs b.1
  /-- The greatest comes before none. -/
  greatest : Least (fun x y => lt y x) xs b.2

theorem widen_nil : widen lt b [] = b := rfl

theorem widen_cons_cons (rest : List α) :
    widen lt b (x :: y :: rest) =
      let c := if lt y x then (y, x) else (x, y)
      widen lt (if lt c.1 b.1 then c.1 else b.1, if !lt c.2 b.2 then c.2 else b.2) rest := by
  cases h : lt y x <;> rw [widen, h]

namespace Spans

theorem singleton (h : Ranks lt [x]) : Spans lt [x] (x, x) := ⟨.singleton h, .singleton h.flip⟩

/-- **The bounds of two lists give those of both**: it takes one comparison for each bound. -/
theorem merge (hb : Spans lt xs b) (hc : Spans lt ys c) (h : Ranks lt (xs ++ ys)) :
    Spans lt (xs ++ ys)
      (if lt c.1 b.1 then c.1 else b.1, if !lt c.2 b.2 then c.2 else b.2) := by
  have hl : ∀ {z}, z ∈ xs → z ∈ xs ++ ys := List.mem_append_left ys
  have hr : ∀ {z}, z ∈ ys → z ∈ xs ++ ys := List.mem_append_right xs
  have hcomm : Ranks lt (ys ++ xs) := h.mono List.perm_append_comm.subset
  constructor
  · dsimp only
    split
    · rename_i hlt
      have hge := h.asymm (hr hc.least.mem) (hl hb.least.mem) hlt
      exact (hc.least.append hb.least hge hcomm).append_comm
    · rename_i hge
      exact hb.least.append hc.least (by simpa using hge) h
  · dsimp only
    split
    · rename_i hge
      exact (hc.greatest.append hb.greatest (by simpa using hge) hcomm.flip).append_comm
    · rename_i hlt
      have hge := h.asymm (hr hc.greatest.mem) (hl hb.greatest.mem) (by simpa using hlt)
      exact hb.greatest.append hc.greatest hge h.flip

theorem pair (h : Ranks lt [x, y]) : Spans lt [x, y] (if lt y x then (y, x) else (x, y)) := by
  have hx : x ∈ [x, y] := List.mem_cons_self
  have hy : y ∈ [x, y] := List.mem_cons_of_mem _ List.mem_cons_self
  have hmerge := (singleton (h.mono (List.cons_subset.2 ⟨hx, List.nil_subset _⟩))).merge
    (singleton (h.mono (List.cons_subset.2 ⟨hy, List.nil_subset _⟩))) h
  cases hyx : lt y x with
  | true => simpa [hyx] using hmerge
  | false => simpa [hyx] using hmerge

/-- An element that comes before the least comes before the greatest, so that a single one is merged
with one comparison less. -/
theorem merge_singleton (hb : Spans lt xs b) (h : Ranks lt (xs ++ [x])) :
    Spans lt (xs ++ [x])
      (if lt x b.1 then (x, b.2) else if !lt x b.2 then (b.1, x) else (b.1, b.2)) := by
  have hx : x ∈ xs ++ [x] := List.mem_append_right xs List.mem_cons_self
  have hmerge := hb.merge (singleton (h.mono (List.subset_append_right xs [x]))) h
  cases hlt : lt x b.1 with
  | true =>
    have hgt : lt x b.2 = true := by
      by_contra hge
      have hnot := h.not_lt_trans hx (List.mem_append_left _ hb.greatest.mem)
        (List.mem_append_left _ hb.least.mem) (by simpa using hge)
        (hb.greatest.not_lt _ hb.least.mem)
      rw [hlt] at hnot
      cases hnot
    simpa [hlt, hgt] using hmerge
  | false => cases hge : lt x b.2 <;> simpa [hlt, hge] using hmerge

/-- The scan takes the bounds of what was seen to those of all: each turn is a merge with the next
two elements, and the last may be a merge with one. -/
theorem widen (hb : Spans lt xs b) (h : Ranks lt (xs ++ ys)) :
    Spans lt (xs ++ ys) (EchoProbe.widen lt b ys) := by
  induction ys using List.twoStepInduction generalizing xs b with
  | nil => simpa [widen_nil] using hb
  | singleton x => exact hb.merge_singleton h
  | cons_cons x y rest ih =>
    have happ : xs ++ x :: y :: rest = xs ++ [x, y] ++ rest := by simp
    rw [happ] at h ⊢
    have hseen := h.mono (List.subset_append_left (xs ++ [x, y]) rest)
    have hpair := pair (hseen.mono (List.subset_append_right xs [x, y]))
    rw [widen_cons_cons]
    exact ih (hb.merge hpair hseen) h

end Spans

/-- **The scan finds a least and a greatest element**, unless there is none at all. -/
theorem spans_extremes (hne : xs ≠ []) (h : Ranks lt xs) :
    ∃ b, extremes lt xs = some b ∧ Spans lt xs b := by
  match xs, hne with
  | [x], _ => exact ⟨_, rfl, .singleton h⟩
  | x :: y :: rest, _ =>
    have hpair := Spans.pair (h.mono (List.subset_append_left [x, y] rest))
    exact ⟨_, rfl, hpair.widen h⟩

/-! ### Floats -/

section

open Float.Model (UnpackedFloat)

/-- The place of a float among all floats that are numbers: by its kind, and among those of one sign
by exponent and mantissa. -/
def place : UnpackedFloat → ℤ ×ₗ ℤ ×ₗ ℤ
  | .infinity .negative => toLex (-2, toLex (0, 0))
  | .finite .negative m e _ => toLex (-1, toLex (-e, -m))
  | .finite .positive m e _ => toLex (1, toLex (e, m))
  | .infinity .positive => toLex (2, toLex (0, 0))
  | _ => toLex (0, toLex (0, 0))

theorem lt_iff_place_lt {a b : UnpackedFloat} (ha : a.isNaN = false) (hb : b.isNaN = false) :
    a.lt b = true ↔ place a < place b := by
  cases a with
  | notANumber => cases ha
  | infinity s | zero s =>
    -- the kinds decide
    cases b with
    | notANumber => cases hb
    | infinity s' | zero s' | finite s' m' e' h' =>
      cases s <;> cases s' <;> dsimp only [UnpackedFloat.lt, UnpackedFloat.compare, place] <;>
        simp [Prod.Lex.toLex_lt_toLex] <;> decide
  | finite s m e h =>
    cases b with
    | notANumber => cases hb
    | infinity s' | zero s' | finite s' m' e' h' =>
      cases s <;> cases s' <;> dsimp only [UnpackedFloat.lt, UnpackedFloat.compare, place] <;>
        simp [Prod.Lex.toLex_lt_toLex, Ordering.then_eq_lt, Ordering.then_eq_gt,
          Int.compare_eq_lt, Int.compare_eq_gt, Nat.compare_eq_lt, Nat.compare_eq_gt]

/-- Floats are ranked by their own comparison if all of them are numbers. -/
theorem ranks_float {xs : List Float} (h : ∀ x ∈ xs, x.isNaN = false) :
    Ranks (fun x y => decide (x < y)) xs := by
  refine .of_place (fun x => place x.toModel.unpack) fun x hx y hy => ?_
  have hlt : x < y ↔ x.toModel.unpack.lt y.toModel.unpack = true := decide_eq_true_iff
  rw [decide_eq_true_iff, hlt]
  exact lt_iff_place_lt (h x hx) (h y hy)

end

/-! ### Statistics -/

namespace Statistics

theorem spans_ofSamples? {xs : List Float} (hne : xs ≠ [])
    (h : Ranks (fun x y => decide (x < y)) xs) :
    ∃ t, ofSamples? xs = some t ∧ Spans (fun x y => decide (x < y)) xs (t.min, t.max) := by
  obtain ⟨b, hb, hspans⟩ := spans_extremes hne h
  rw [ofSamples?, hb]
  exact ⟨_, rfl, hspans⟩

theorem ofSamples_eq_ok_iff {xs : List Float} {t : Statistics} :
    ofSamples xs = .ok t ↔ ofSamples? xs = some t := by
  rw [ofSamples]
  cases ofSamples? xs <;> simp

theorem ofSamples_eq_error_iff {xs : List Float} {e : Error} :
    ofSamples xs = .error e ↔ xs = [] ∧ e = .noSamples := by
  rw [← ofSamples?_eq_none_iff, ofSamples]
  cases ofSamples? xs <;> simp [eq_comm]

theorem ofDurations_eq_error_iff {ds : List Duration} {e : Error} :
    ofDurations ds = .error e ↔ ds = [] ∧ e = .noSamples := by
  rw [ofDurations, ofSamples_eq_error_iff, List.map_eq_nil_iff]

end Statistics

/-- **The extremes of samples are what they should be**, for every comparison that ranks the samples
and thus for floats that are numbers; and only without samples there are none. -/
theorem samples_spanned :
    (∀ (α : Type) (lt : α → α → Bool) (xs : List α), xs ≠ [] → Ranks lt xs →
      ∃ b, extremes lt xs = some b ∧ Spans lt xs b) ∧
    (∀ xs : List Float, xs ≠ [] → Ranks (fun x y => decide (x < y)) xs →
      ∃ t, Statistics.ofSamples xs = .ok t ∧
        Spans (fun x y => decide (x < y)) xs (t.min, t.max)) ∧
    (∀ xs : List Float, (∀ x ∈ xs, x.isNaN = false) → Ranks (fun x y => decide (x < y)) xs) ∧
    (∀ (xs : List Float) (e : Error),
      Statistics.ofSamples xs = .error e ↔ xs = [] ∧ e = .noSamples) ∧
    ∀ (ds : List Duration) (e : Error),
      Statistics.ofDurations ds = .error e ↔ ds = [] ∧ e = .noSamples := by
  refine ⟨fun α lt xs => spans_extremes, fun xs hne h => ?_, fun xs => ranks_float,
    fun xs e => Statistics.ofSamples_eq_error_iff, fun ds e => Statistics.ofDurations_eq_error_iff⟩
  obtain ⟨t, ht, hspans⟩ := Statistics.spans_ofSamples? hne h
  exact ⟨t, Statistics.ofSamples_eq_ok_iff.2 ht, hspans⟩

/-- The last of five samples is tied with the greatest before it, and the two zeros are tied. -/
theorem spanned_of_tied :
    let xs : List Float := [2.5, 0.0, 7.0, -0.0, 7.0]
    ∃ t, Statistics.ofSamples xs = .ok t ∧ Spans (fun x y => decide (x < y)) xs (t.min, t.max) ∧
      t.min = 0.0 ∧ t.max = 7.0 := by
  intro xs
  have hnumbers : ∀ x ∈ xs, x.isNaN = false := by decide +kernel
  have hb : extremes (fun x y => decide (x < y)) xs = some (0.0, 7.0) := by decide +kernel
  obtain ⟨t, ht, hspans⟩ :=
    samples_spanned.2.1 xs (List.cons_ne_nil _ _) (samples_spanned.2.2.1 xs hnumbers)
  have hs := Statistics.ofSamples_eq_ok_iff.1 ht
  rw [Statistics.ofSamples?, hb, Option.map_some, Option.some.injEq] at hs
  subst hs
  exact ⟨_, ht, hspans, rfl, rfl⟩

end EchoProbe
