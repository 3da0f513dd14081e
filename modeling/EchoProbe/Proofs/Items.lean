import EchoProbe.CommandLine
import Mathlib.Data.List.Basic
import Mathlib.Data.List.Nodup

/-!
# What a command line says

Options are a record, but a command line says one thing after the other.

* An `Item` is one of those things, and `Item.option?` the option that says it;
* `Options.get?` is what options say by one option, and there is no more to them
  (`Options.eq_of_get?`);
* `Options.add?` says one more item, unless the same option says another one already;
* **`Options.Says`** compares options with all the items. The order does not matter (`Says.perm`),
  the items leave no choice of options (`Says.eq`), there are some if no option says two of them
  (`exists_options`), and adding the items one by one finds them (`Says.addAll?_iff`).
-/

namespace EchoProbe

/-! ### Items -/

/-- One of the things that a command line says. -/
inductive Item
  | file (name : String)
  | count (n : UInt64)
  | interval (ms : UInt64)
  | logLevel (level : String)
  | numeric
  | quiet
  | timestamp
deriving DecidableEq

/-- The option that says an item; a file stands for itself. -/
def Item.option? : Item → Option CommandOption
  | file _ => none
  | count _ => some (.setting .count)
  | interval _ => some (.setting .interval)
  | logLevel _ => some (.setting .logLevel)
  | numeric => some (.switch .numeric)
  | quiet => some (.switch .quiet)
  | timestamp => some (.switch .timestamp)

namespace Options

variable {o o₁ o' : Options} {i j : Item} {k : Option CommandOption} {is : List Item}

/-- What some options say by an option, or without one. -/
def get? (o : Options) : Option CommandOption → Option Item
  | none => o.file.map .file
  | some (.setting .count) => o.count.map .count
  | some (.setting .interval) => o.interval.map .interval
  | some (.setting .logLevel) => o.logLevel.map .logLevel
  | some (.switch .numeric) => if o.numeric then some .numeric else none
  | some (.switch .quiet) => if o.quiet then some .quiet else none
  | some (.switch .timestamp) => if o.timestamp then some .timestamp else none
  | some (.switch .help) => none
  | some (.switch .version) => none

/-- Options that say one more item. -/
def put (o : Options) : Item → Options
  | .file name => { o with file := some name }
  | .count n => { o with count := some n }
  | .interval ms => { o with interval := some ms }
  | .logLevel level => { o with logLevel := some level }
  | .numeric => { o with numeric := true }
  | .quiet => { o with quiet := true }
  | .timestamp => { o with timestamp := true }

theorem get?_put : (o.put i).get? k = if k = i.option? then some i else o.get? k := by
  cases i <;> rcases k with _ | (_ | _ | _ | _ | _) | (_ | _ | _) <;> rfl

theorem get?_empty : ({} : Options).get? k = none := by
  rcases k with _ | (_ | _ | _ | _ | _) | (_ | _ | _) <;> rfl

theorem eq_of_get? (h : ∀ k, o.get? k = o'.get? k) : o = o' := by
  have hswitch {b b' : Bool} {i : Item}
      (h : (if b then some i else none) = if b' then some i else none) : b = b' := by
    cases b <;> cases b' <;> trivial
  have hfile := Option.map_injective (fun _ _ => Item.file.inj) (h none)
  have hcount := Option.map_injective (fun _ _ => Item.count.inj) (h (some (.setting .count)))
  have hinterval :=
    Option.map_injective (fun _ _ => Item.interval.inj) (h (some (.setting .interval)))
  have hlevel :=
    Option.map_injective (fun _ _ => Item.logLevel.inj) (h (some (.setting .logLevel)))
  have hnumeric := hswitch (h (some (.switch .numeric)))
  have hquiet := hswitch (h (some (.switch .quiet)))
  have htimestamp := hswitch (h (some (.switch .timestamp)))
  cases o
  cases o'
  simp_all only

/-- Options with one more item, unless they say one by the same option. -/
def add? (o : Options) (i : Item) : Option Options :=
  if (o.get? i.option?).isSome then none else some (o.put i)

theorem add?_eq_some_iff : o.add? i = some o₁ ↔ o.get? i.option? = none ∧ o.put i = o₁ := by
  rw [add?, Option.ite_none_left_eq_some, Option.not_isSome_iff_eq_none, Option.some.injEq]

/-- Options with some more items. -/
def addAll? (o : Options) (is : List Item) : Option Options := is.foldlM add? o

theorem addAll?_cons : o.addAll? (i :: is) = (o.add? i).bind fun o => o.addAll? is := rfl

theorem addAll?_append (js : List Item) :
    o.addAll? (is ++ js) = (o.addAll? is).bind fun o => o.addAll? js := List.foldlM_append

theorem addAll?_singleton : o.addAll? [i] = o.add? i := by
  rw [addAll?_cons]
  exact Option.bind_fun_some _

theorem addAll?_concat :
    o.addAll? (is ++ [i]) = some o' ↔ ∃ o₁, o.addAll? is = some o₁ ∧ o₁.add? i = some o' := by
  simp only [addAll?_append, addAll?_singleton, Option.bind_eq_some_iff]

/-- Some options say exactly the given items, in whatever order. -/
structure Says (o : Options) (is : List Item) : Prop where
  /-- No option says more than one item. -/
  nodup : (is.map Item.option?).Nodup
  get?_iff (k : Option CommandOption) (i : Item) : o.get? k = some i ↔ i ∈ is ∧ i.option? = k

namespace Says

theorem empty : ({} : Options).Says [] where
  nodup := List.nodup_nil
  get?_iff k i := by simp [get?_empty]

theorem perm (h : o.Says is) {js : List Item} (hp : is.Perm js) : o.Says js where
  nodup := (hp.map _).nodup_iff.1 h.nodup
  get?_iff k i := by rw [h.get?_iff, hp.mem_iff]

theorem eq (h : o.Says is) (h' : o'.Says is) : o = o' :=
  eq_of_get? fun k => Option.ext fun i => (h.get?_iff k i).trans (h'.get?_iff k i).symm

theorem get?_eq_none_iff (h : o.Says is) : o.get? k = none ↔ k ∉ is.map Item.option? := by
  rw [Option.eq_none_iff_forall_ne_some, List.mem_map]
  simp only [ne_eq, h.get?_iff, not_exists]

theorem put (h : o.Says is) (hi : i.option? ∉ is.map Item.option?) : (o.put i).Says (i :: is) where
  nodup := List.nodup_cons.2 ⟨hi, h.nodup⟩
  get?_iff k j := by
    rw [get?_put, List.mem_cons]
    split
    · rename_i hk
      subst hk
      constructor
      · rintro ⟨⟩
        exact ⟨.inl rfl, rfl⟩
      · rintro ⟨rfl | hj, hji⟩
        · rfl
        · exact absurd (List.mem_map.2 ⟨j, hj, hji⟩) hi
    · rename_i hk
      rw [h.get?_iff]
      refine ⟨fun hj => ⟨.inr hj.1, hj.2⟩, ?_⟩
      rintro ⟨rfl | hj, rfl⟩
      · exact absurd rfl hk
      · exact ⟨hj, rfl⟩

theorem add?_iff (h : o.Says is) : o.add? i = some o₁ ↔ o₁.Says (i :: is) := by
  rw [add?_eq_some_iff, h.get?_eq_none_iff]
  constructor
  · rintro ⟨hi, rfl⟩
    exact h.put hi
  · intro h₁
    have hi := (List.nodup_cons.1 h₁.nodup).1
    exact ⟨hi, (h.put hi).eq h₁⟩

theorem addAll?_iff {js : List Item} (h : o.Says js) :
    o.addAll? is = some o' ↔ o'.Says (js ++ is) := by
  induction is generalizing o js with
  | nil =>
    rw [List.append_nil, addAll?, List.foldlM_nil]
    refine ⟨?_, fun h' => congrArg some (h.eq h')⟩
    rintro ⟨⟩
    exact h
  | cons i is ih =>
    rw [addAll?_cons, Option.bind_eq_some_iff]
    constructor
    · rintro ⟨o₁, h₁, h'⟩
      exact ((ih (h.add?_iff.1 h₁)).1 h').perm List.perm_middle.symm
    · intro h'
      have hp := h'.perm List.perm_middle
      have hi := (List.nodup_cons.1 hp.nodup).1
      rw [List.map_append, List.mem_append, not_or] at hi
      have h₁ := h.put hi.1
      exact ⟨_, h.add?_iff.2 h₁, (ih h₁).2 hp⟩

end Says

/-- Every list of items can be said, if no option says more than one. -/
theorem exists_options (h : (is.map Item.option?).Nodup) : ∃ o : Options, o.Says is := by
  induction is with
  | nil => exact ⟨{}, .empty⟩
  | cons i is ih =>
    obtain ⟨hi, his⟩ := List.nodup_cons.1 h
    obtain ⟨o, ho⟩ := ih his
    exact ⟨o.put i, ho.put hi⟩

end Options

end EchoProbe
