import EchoProbe.Proofs.Items

/-!
# How an argument says it

* `Numeral.Writes` is how a number is written, and `CommandOption.name` and `letter?` how an option
  is called;
* `Letters` are joined letters, and **`Opens`** is an argument that begins with a dash, in its long
  form or with letters: it says some items, and may leave a setting that still has to be given its
  value;
* each reader finds exactly the items that are said, and adds them to the options so far:
  `assign_eq_ok_iff`, `takeFile_eq_ok_iff`, `turnOn_eq_options_iff`, `letters_eq_options_iff` and
  **`readOption_eq_options_iff`**.
-/

namespace EchoProbe

/-! ### Numerals -/

namespace Numeral

/-- A text writes a number: in one or more decimal digits, which may follow a plus sign. -/
def Writes (v : String) (n : Nat) : Prop :=
  ∃ digits, (v.toList = digits ∨ v.toList = '+' :: digits) ∧ digits ≠ [] ∧
    (∀ c ∈ digits, c.isDigit = true) ∧ Nat.ofDigitChars 10 digits 0 = n

theorem isDigit_iff {c : Char} : c.isDigit = true ↔ '0' ≤ c ∧ c ≤ '9' := by
  rw [Char.isDigit, Bool.and_eq_true, decide_eq_true_iff, decide_eq_true_iff]
  rfl

theorem digit?_eq_some_iff {c : Char} {d : Nat} :
    digit? 10 c = some d ↔ c.isDigit = true ∧ c.toNat - '0'.toNat = d := by
  by_cases h : '0' ≤ c ∧ c ≤ '9'
  · have hlt : c.toNat - '0'.toNat < 10 := by
      have hle : c.toNat ≤ 57 := h.2
      have hzero : '0'.toNat = 48 := rfl
      omega
    rw [digit?, if_pos h, if_pos hlt, isDigit_iff, Option.some.injEq]
    exact (and_iff_right h).symm
  · -- letters stand for ten and more
    have hnone : digit? 10 c = none := by
      rw [digit?, if_neg h]
      exact if_neg (by split <;> [skip; split] <;> omega)
    rw [hnone, isDigit_iff]
    exact iff_of_false (Option.some_ne_none d).symm fun hc => h hc.1

theorem readOn_eq_some_iff {acc n : Nat} {cs : List Char} :
    readOn 10 acc cs = some n ↔
      (∀ c ∈ cs, c.isDigit = true) ∧ Nat.ofDigitChars 10 cs acc = n := by
  induction cs generalizing acc with
  | nil => simp [readOn]
  | cons c cs ih =>
    rw [readOn, Option.bind_eq_some_iff, Nat.ofDigitChars_cons, List.forall_mem_cons]
    constructor
    · rintro ⟨d, hd, h⟩
      obtain ⟨hc, rfl⟩ := digit?_eq_some_iff.1 hd
      obtain ⟨hcs, rfl⟩ := ih.1 h
      exact ⟨⟨hc, hcs⟩, rfl⟩
    · rintro ⟨⟨hc, hcs⟩, rfl⟩
      exact ⟨_, digit?_eq_some_iff.2 ⟨hc, rfl⟩, ih.2 ⟨hcs, rfl⟩⟩

theorem ofDigits?_eq_some_iff {n : Nat} {cs : List Char} :
    ofDigits? 10 cs = some n ↔
      cs ≠ [] ∧ (∀ c ∈ cs, c.isDigit = true) ∧ Nat.ofDigitChars 10 cs 0 = n := by
  cases cs with
  | nil => simp [ofDigits?]
  | cons c cs =>
    rw [ofDigits?, if_neg (by simp), readOn_eq_some_iff]
    exact (and_iff_right (List.cons_ne_nil c cs)).symm

/-- **A numeral is read exactly if it writes a number below the limit.** -/
theorem unsigned?_eq_some_iff {limit n : Nat} {v : String} :
    unsigned? limit v = some n ↔ Writes v n ∧ n < limit := by
  rw [unsigned?, Option.filter_eq_some_iff, decide_eq_true_iff, ofDigits?_eq_some_iff]
  refine and_congr_left fun _ => ?_
  split
  · rename_i rest hv
    constructor
    · exact fun h => ⟨rest, .inr hv, h⟩
    · rintro ⟨digits, hd | hd, h⟩
      · -- the plus sign is no digit
        have hplus := h.2.1 '+' (by rw [← hd, hv]; exact List.mem_cons_self)
        cases hplus
      · rw [hv] at hd
        cases hd
        exact h
  · rename_i hv
    constructor
    · exact fun h => ⟨_, .inl rfl, h⟩
    · rintro ⟨digits, hd | hd, h⟩
      · rwa [hd]
      · exact absurd hd (hv digits)
end Numeral

/-! ### Names and values -/

namespace CommandOption

/-- The long name of an option. -/
def name : CommandOption → String
  | .setting .count => "count"
  | .setting .interval => "interval"
  | .setting .logLevel => "log-level"
  | .switch .numeric => "numeric"
  | .switch .quiet => "quiet"
  | .switch .timestamp => "timestamp"
  | .switch .help => "help"
  | .switch .version => "version"

/-- The letter of an option, if it has one. -/
def letter? : CommandOption → Option Char
  | .setting .count => some 'c'
  | .setting .interval => some 'i'
  | .setting .logLevel => none
  | .switch .numeric => some 'n'
  | .switch .quiet => some 'q'
  | .switch .timestamp => some 'D'
  | .switch .help => some 'h'
  | .switch .version => some 'V'

theorem ofName?_eq_some_iff {n : String} {p : CommandOption} : ofName? n = some p ↔ p.name = n := by
  constructor
  · intro h
    unfold ofName? at h
    split at h <;> cases h <;> rfl
  · rintro rfl
    rcases p with (_ | _ | _ | _ | _) | (_ | _ | _) <;> rfl

theorem ofLetter?_eq_some_iff {c : Char} {p : CommandOption} :
    ofLetter? c = some p ↔ p.letter? = some c := by
  constructor
  · intro h
    unfold ofLetter? at h
    split at h <;> cases h <;> rfl
  · intro h
    rcases p with (_ | _ | _ | _ | _) | (_ | _ | _) <;> cases h <;> rfl

theorem equals_notMem_name (p : CommandOption) : '=' ∉ p.name.toList := by
  rcases p with (_ | _ | _ | _ | _) | (_ | _ | _) <;> decide

end CommandOption

/-- A text is the value of an item. -/
def Item.Value : Item → String → Prop
  | count n, v => Numeral.Writes v n.toNat
  | interval ms, v => Numeral.Writes v ms.toNat
  | logLevel level, v => v = level
  | _, _ => False

namespace CommandLine

variable {o o₁ o' : Options} {argument name v : String} {i : Item} {items : List Item} {s : Switch}
  {t : Setting}

/-! ### One item at a time -/

theorem bind_eq_ok_iff {ε α β : Type} {x : Except ε α} {f : α → Except ε β} {b : β} :
    x.bind f = .ok b ↔ ∃ a, x = .ok a ∧ f a = .ok b := by
  cases x <;> simp [Except.bind]

theorem map_eq_ok_iff {ε α β : Type} {x : Except ε α} {f : α → β} {b : β} :
    x.map f = .ok b ↔ ∃ a, x = .ok a ∧ f a = b := by
  cases x <;> simp [Except.map]

theorem ite_error_eq_ok_iff {ε α : Type} {b : Bool} {e : ε} {x : Except ε α} {a : α} :
    (if b = true then .error e else x) = .ok a ↔ b = false ∧ x = .ok a := by
  cases b <;> simp

/-- Adds an item, or fails if one is said by the same option. -/
def enter (o : Options) (e : UsageError) (i : Item) : Except UsageError Options :=
  if (o.get? i.option?).isSome then .error e else .ok (o.put i)

theorem enter_eq_ok_iff {e : UsageError} : enter o e i = .ok o₁ ↔ o.add? i = some o₁ := by
  rw [enter, Options.add?]
  split <;> simp

theorem enter_eq {e : UsageError} {b : Bool} (hb : (o.get? i.option?).isSome = b) :
    enter o e i = if b = true then .error e else .ok (o.put i) := by
  rw [enter, hb]

theorem takeFile_eq : takeFile o name = enter o (.unexpected name) (.file name) :=
  (enter_eq (i := .file name) Option.isSome_map).symm

theorem word_eq_ok_iff {n : UInt64} : word t v = .ok n ↔ Numeral.Writes v n.toNat := by
  have hread := @Numeral.unsigned?_eq_some_iff (2 ^ 64)
  unfold word
  split
  · rename_i m hm
    rw [Except.ok.injEq]
    obtain ⟨hw, hlt⟩ := hread.1 hm
    constructor
    · rintro rfl
      rwa [UInt64.toNat_ofNat_of_lt' hlt]
    · intro hn
      have hmn := hm.symm.trans (hread.2 ⟨hn, n.toNat_lt⟩)
      rw [Option.some.inj hmn, UInt64.ofNat_toNat]
  · rename_i hnone
    refine iff_of_false (by simp) fun hn => ?_
    rw [hread.2 ⟨hn, n.toNat_lt⟩] at hnone
    cases hnone

/-- The item that a value gives a setting. -/
def itemOf (v : String) : Setting → Except UsageError Item
  | .count => (word .count v).map .count
  | .interval => (word .interval v).map .interval
  | .logLevel => .ok (.logLevel v)

theorem itemOf_eq_ok_iff : itemOf v t = .ok i ↔ i.option? = some (.setting t) ∧ i.Value v := by
  cases t with
  | count | interval =>
    rw [itemOf, map_eq_ok_iff]
    simp only [word_eq_ok_iff]
    constructor
    · rintro ⟨n, hn, rfl⟩
      exact ⟨rfl, hn⟩
    · rintro ⟨hi, hv⟩
      cases i <;> cases hi
      exact ⟨_, hv, rfl⟩
  | logLevel =>
    constructor
    · rintro ⟨⟩
      exact ⟨rfl, rfl⟩
    · rintro ⟨hi, hv⟩
      cases i <;> cases hi
      exact congrArg (Except.ok ∘ Item.logLevel) hv

theorem assign_eq : assign o t v = (itemOf v t).bind (enter o (.repeated (.setting t))) := by
  cases t with
  | count =>
    simp only [assign, itemOf]
    cases word .count v with
    | error e => rfl
    | ok n => exact (enter_eq (i := .count n) Option.isSome_map).symm
  | interval =>
    simp only [assign, itemOf]
    cases word .interval v with
    | error e => rfl
    | ok n => exact (enter_eq (i := .interval n) Option.isSome_map).symm
  | logLevel => exact (enter_eq (i := .logLevel v) Option.isSome_map).symm

theorem assign_eq_ok_iff :
    assign o t v = .ok o₁ ↔
      ∃ i : Item, i.option? = some (.setting t) ∧ i.Value v ∧ o.add? i = some o₁ := by
  simp only [assign_eq, bind_eq_ok_iff, itemOf_eq_ok_iff, enter_eq_ok_iff, and_assoc]

theorem takeFile_eq_ok_iff : takeFile o name = .ok o₁ ↔ o.add? (.file name) = some o₁ := by
  rw [takeFile_eq, enter_eq_ok_iff]

theorem foldlM_takeFile_eq_ok_iff {names : List String} :
    names.foldlM takeFile o = .ok o₁ ↔ o.addAll? (names.map .file) = some o₁ := by
  induction names generalizing o with
  | nil => simp [Options.addAll?, pure, Except.pure]
  | cons name names ih =>
    rw [List.foldlM_cons, List.map_cons, Options.addAll?_cons, Option.bind_eq_some_iff]
    refine bind_eq_ok_iff.trans (exists_congr fun o₂ => ?_)
    rw [takeFile_eq_ok_iff, ih]

theorem turnOn_eq (h : i.option? = some (.switch s)) :
    turnOn o s = (enter o (.repeated (.switch s)) i).map .options := by
  cases i <;> cases h
  · rw [turnOn, enter, Item.option?, Options.get?]
    cases o.numeric <;> rfl
  · rw [turnOn, enter, Item.option?, Options.get?]
    cases o.quiet <;> rfl
  · rw [turnOn, enter, Item.option?, Options.get?]
    cases o.timestamp <;> rfl

/-- A switch is an item, or it asks for something else than a run. -/
theorem turnOn_cases (o : Options) (s : Switch) :
    (∃ i : Item, i.option? = some (.switch s)) ∨
      (∀ i : Item, i.option? ≠ some (.switch s)) ∧
        ∃ r, turnOn o s = .ok (.request r) ∧ ∀ f o', r ≠ .run f o' := by
  cases s with
  | numeric => exact .inl ⟨.numeric, rfl⟩
  | quiet => exact .inl ⟨.quiet, rfl⟩
  | timestamp => exact .inl ⟨.timestamp, rfl⟩
  | help | version =>
    refine .inr ⟨fun i hi => ?_, _, rfl, fun f o' h => ?_⟩
    · cases i <;> cases hi
    · cases h

theorem item_of_switch_unique {j : Item} (hi : i.option? = some (.switch s))
    (hj : j.option? = some (.switch s)) : i = j := by
  cases i <;> cases hi <;> cases j <;> cases hj <;> rfl

theorem turnOn_eq_options_iff :
    turnOn o s = .ok (.options o₁) ↔
      ∃ i : Item, i.option? = some (.switch s) ∧ o.add? i = some o₁ := by
  rcases turnOn_cases o s with ⟨i, hi⟩ | ⟨hno, r, hr, -⟩
  · rw [turnOn_eq hi, map_eq_ok_iff]
    constructor
    · rintro ⟨o₂, h, hs⟩
      cases hs
      exact ⟨i, hi, enter_eq_ok_iff.1 h⟩
    · rintro ⟨j, hj, h⟩
      cases item_of_switch_unique hi hj
      exact ⟨o₁, enter_eq_ok_iff.2 h, rfl⟩
  · rw [hr]
    refine iff_of_false (by simp) ?_
    rintro ⟨i, hi, -⟩
    exact hno i hi

theorem ne_run_of_turnOn {r : Request} (h : turnOn o s = .ok (.request r)) (f : String)
    (o' : Options) : r ≠ .run f o' := by
  rcases turnOn_cases o s with ⟨i, hi⟩ | ⟨-, r', hr, hno⟩
  · rw [turnOn_eq hi, map_eq_ok_iff] at h
    obtain ⟨o₂, -, hs⟩ := h
    cases hs
  · rw [hr] at h
    cases h
    exact hno f o'

/-! ### Joined letters -/

/-- Joined letters: each stands for a switch, up to one that stands for a setting, if there is one;
then also what comes behind it. -/
inductive Letters : List Char → List Item → Option (Setting × List Char) → Prop
  | nil : Letters [] [] none
  | setting {c : Char} {t : Setting} {cs : List Char} :
      (CommandOption.setting t).letter? = some c → Letters (c :: cs) [] (some (t, cs))
  | switch {c : Char} {s : Switch} {i : Item} {cs : List Char} {items : List Item}
      {rest : Option (Setting × List Char)} :
      (CommandOption.switch s).letter? = some c → i.option? = some (.switch s) →
      Letters cs items rest → Letters (c :: cs) (i :: items) rest

section

variable {c : Char} {cs : List Char} {rest : Option (Setting × List Char)}

theorem letters_cons_iff :
    Letters (c :: cs) items rest ↔
      (∃ t, CommandOption.ofLetter? c = some (.setting t) ∧ items = [] ∧ rest = some (t, cs)) ∨
      ∃ s i js, CommandOption.ofLetter? c = some (.switch s) ∧ i.option? = some (.switch s) ∧
        Letters cs js rest ∧ items = i :: js := by
  simp only [CommandOption.ofLetter?_eq_some_iff]
  constructor
  · rintro (_ | ⟨hc⟩ | ⟨hc, hi, hrest⟩)
    · exact .inl ⟨_, hc, rfl, rfl⟩
    · exact .inr ⟨_, _, _, hc, hi, hrest, rfl⟩
  · rintro (⟨t, hc, rfl, rfl⟩ | ⟨s, i, js, hc, hi, hrest, rfl⟩)
    · exact .setting hc
    · exact .switch hc hi hrest

/-- **Joined letters are read as the items that they stand for.** -/
theorem letters_eq_options_iff :
    letters o cs = .ok (.options o₁, rest) ↔
      ∃ items, Letters cs items rest ∧ o.addAll? items = some o₁ := by
  induction cs generalizing o with
  | nil =>
    constructor
    · rintro ⟨⟩
      exact ⟨[], .nil, rfl⟩
    · rintro ⟨items, ⟨⟩, h⟩
      cases h
      rfl
  | cons c cs ih =>
    simp only [letters_cons_iff]
    rw [letters]
    rcases CommandOption.ofLetter? c with _ | s | t
    · simp
    · refine bind_eq_ok_iff.trans ⟨?_, ?_⟩
      · rintro ⟨_ | r, hstep, h⟩
        · obtain ⟨i, hi, hadd⟩ := turnOn_eq_options_iff.1 hstep
          obtain ⟨js, hjs, hall⟩ := ih.1 h
          refine ⟨i :: js, .inr ⟨s, i, js, rfl, hi, hjs, rfl⟩, ?_⟩
          rw [Options.addAll?_cons, hadd]
          exact hall
        · cases h
      · rintro ⟨items, ⟨t, ht, -⟩ | ⟨s', i, js, hs, hi, hjs, rfl⟩, hall⟩
        · cases ht
        · cases hs
          rw [Options.addAll?_cons, Option.bind_eq_some_iff] at hall
          obtain ⟨o₂, hadd, hall⟩ := hall
          exact ⟨.options o₂, turnOn_eq_options_iff.2 ⟨i, hi, hadd⟩, ih.2 ⟨js, hjs, hall⟩⟩
    · constructor
      · rintro ⟨⟩
        exact ⟨[], .inl ⟨t, rfl, rfl, rfl⟩, rfl⟩
      · rintro ⟨items, ⟨t', ht, rfl, rfl⟩ | ⟨s', i, js, hs, -⟩, hall⟩
        · cases ht
          cases hall
          rfl
        · cases hs

theorem ne_run_of_letters {r : Request} (h : letters o cs = .ok (.request r, rest)) (f : String)
    (o' : Options) : r ≠ .run f o' := by
  induction cs generalizing o with
  | nil => cases h
  | cons c cs ih =>
    rw [letters] at h
    split at h
    · cases h
    · cases h
    · obtain ⟨_ | r', hstep, h⟩ := bind_eq_ok_iff.1 h
      · exact ih h
      · cases h
        exact ne_run_of_turnOn hstep f o'

end

/-! ### Arguments -/

/-- An argument that begins with a dash says some items, and may leave a setting, with its value or
without one. -/
inductive Opens (argument : String) : List Item → Option (Setting × Option String) → Prop
  /-- A switch has a long name, -/
  | long {s : Switch} {i : Item} : argument = "--" ++ (CommandOption.switch s).name →
      i.option? = some (.switch s) → Opens argument [i] none
  /-- and so has a setting, which may take its value from the next argument -/
  | longNext {t : Setting} : argument = "--" ++ (CommandOption.setting t).name →
      Opens argument [] (some (t, none))
  /-- or have it behind an equals sign. -/
  | longValue {t : Setting} {v : String} :
      argument = "--" ++ (CommandOption.setting t).name ++ "=" ++ v →
      Opens argument [] (some (t, some v))
  /-- Letters can be joined. -/
  | letters {cs : List Char} {items : List Item} : argument = "-" ++ String.ofList cs →
      Letters cs items none → items ≠ [] → Opens argument items none
  /-- The last of them may be that of a setting, which takes its value from the next argument -/
  | lettersNext {cs : List Char} {items : List Item} {t : Setting} :
      argument = "-" ++ String.ofList cs → Letters cs items (some (t, [])) →
      Opens argument items (some (t, none))
  /-- or has it behind an equals sign -/
  | lettersValue {cs : List Char} {items : List Item} {t : Setting} {v : List Char} :
      argument = "-" ++ String.ofList cs → Letters cs items (some (t, '=' :: v)) →
      Opens argument items (some (t, some (String.ofList v)))
  /-- or without one. -/
  | lettersJoined {cs : List Char} {items : List Item} {t : Setting} {c : Char} {v : List Char} :
      argument = "-" ++ String.ofList cs → Letters cs items (some (t, c :: v)) → c ≠ '=' →
      Opens argument items (some (t, some (String.ofList (c :: v))))

theorem isOption_iff : isOption argument = true ↔ ∃ c cs, argument.toList = '-' :: c :: cs := by
  rw [isOption, Bool.and_eq_true, decide_eq_true_iff, decide_eq_true_iff, ne_eq,
    ← String.toList_inj]
  rcases argument.toList with _ | ⟨d, _ | ⟨c, cs⟩⟩ <;> simp

theorem isOption_of_writes {n : Nat} (h : Numeral.Writes v n) : isOption v = false := by
  obtain ⟨digits, hv, -, hdigits, -⟩ := h
  cases hdash : isOption v with
  | false => rfl
  | true =>
    obtain ⟨c, cs, hcs⟩ := isOption_iff.1 hdash
    rcases hv with hv | hv
    · have hminus := hdigits '-' (by rw [← hv, hcs]; exact List.mem_cons_self)
      cases hminus
    · cases hcs.symm.trans hv

/-- A long argument without its dashes is cut at the first equals sign. -/
theorem splitLong_eq_iff {cs : List Char} {n : String} {value : Option String}
    (hn : '=' ∉ n.toList) :
    splitLong cs = (n, value) ↔ cs = n.toList ++ value.elim [] ('=' :: ·.toList) := by
  constructor
  · intro h
    have hcs := List.takeWhile_append_dropWhile (p := (· ≠ '=')) (l := cs)
    have hhead := List.head?_dropWhile_not (· ≠ '=') cs
    rw [splitLong] at h
    split at h
    · rename_i d v hd
      cases h
      rw [hd] at hcs hhead
      have heq : d = '=' := by simpa using hhead
      subst heq
      simpa using hcs.symm
    · rename_i hd
      cases h
      rw [hd] at hcs
      simpa using hcs.symm
  · have htake : ∀ c ∈ n.toList, decide (c ≠ '=') = true := fun c hc =>
      decide_eq_true (fun h => hn (h ▸ hc))
    rintro rfl
    rw [splitLong, List.takeWhile_append_of_pos htake, List.dropWhile_append_of_pos htake]
    cases value <;> simp

theorem splitLong_name_iff {cs : List Char} {p : CommandOption} {value : Option String} :
    splitLong cs = (p.name, value) ↔
      "--" ++ String.ofList cs = "--" ++ p.name ++ value.elim "" ("=" ++ ·) := by
  rw [splitLong_eq_iff p.equals_notMem_name, ← String.toList_inj]
  cases value <;> simp

theorem attached_of_ne {c : Char} {cs : List Char} (hc : c ≠ '=') :
    attached (c :: cs) = some (String.ofList (c :: cs)) := by
  unfold attached
  split
  · rename_i hnil
    cases hnil
  · rename_i heq
    cases heq
    exact absurd rfl hc
  · rfl

theorem dash_append_inj {cs cs' : List Char} :
    "-" ++ String.ofList cs = "-" ++ String.ofList cs' ↔ cs = cs' := by
  simp [← String.toList_inj]

theorem dashes_append (n : String) : "--" ++ n = "-" ++ String.ofList ('-' :: n.toList) := by
  simp [← String.toList_inj]

section

variable {c : Char} {cs : List Char} {r : Option (Setting × Option String)}

theorem Letters.ne_dash {rest : Option (Setting × List Char)} (h : Letters (c :: cs) items rest) :
    c ≠ '-' := by
  rintro rfl
  rcases letters_cons_iff.1 h with ⟨t, ht, -⟩ | ⟨s, i, js, hs, -⟩
  · cases ht
  · cases hs

theorem opens_long_iff (h : argument = "--" ++ String.ofList cs) :
    Opens argument items r ↔
      (∃ s i, splitLong cs = ((CommandOption.switch s).name, none) ∧ i.option? = some (.switch s) ∧
        items = [i] ∧ r = none) ∨
      ∃ t value, splitLong cs = ((CommandOption.setting t).name, value) ∧ items = [] ∧
        r = some (t, value) := by
  -- no option has a dash for a letter
  have hletters {cs' : List Char} {js : List Item} {rest : Option (Setting × List Char)}
      (h' : argument = "-" ++ String.ofList cs') (hl : Letters cs' js rest) : False := by
    rw [h, dashes_append, dash_append_inj] at h'
    subst h'
    exact hl.ne_dash rfl
  simp only [splitLong_name_iff, ← h]
  constructor
  · rintro (⟨h', hi⟩ | ⟨h'⟩ | ⟨h'⟩ | ⟨h', hl⟩ | ⟨h', hl⟩ | ⟨h', hl⟩ | ⟨h', hl⟩)
    · exact .inl ⟨_, _, by simpa using h', hi, rfl, rfl⟩
    · exact .inr ⟨_, _, by simpa using h', rfl, rfl⟩
    · exact .inr ⟨_, _, by simpa [String.append_assoc] using h', rfl, rfl⟩
    all_goals exact (hletters h' hl).elim
  · rintro (⟨s, i, h', hi, rfl, rfl⟩ | ⟨t, _ | v, h', rfl, rfl⟩)
    · exact .long (by simpa using h') hi
    · exact .longNext (by simpa using h')
    · exact .longValue (by simpa [String.append_assoc] using h')

theorem opens_letters_iff (h : argument = "-" ++ String.ofList (c :: cs)) (hc : c ≠ '-') :
    Opens argument items r ↔
      ∃ rest, Letters (c :: cs) items rest ∧ r = rest.map fun (t, cs) => (t, attached cs) := by
  have hsame {cs' : List Char} (h' : argument = "-" ++ String.ofList cs') : cs' = c :: cs :=
    dash_append_inj.1 (h'.symm.trans h)
  have hlong {n : String} (h' : argument = "--" ++ n) : False := by
    rw [dashes_append] at h'
    cases hsame h'
    exact hc rfl
  constructor
  · rintro (⟨h', hi⟩ | ⟨h'⟩ | ⟨h'⟩ | ⟨h', hl, -⟩ | ⟨h', hl⟩ | ⟨h', hl⟩ | ⟨h', hl, hne⟩)
    · exact (hlong h').elim
    · exact (hlong h').elim
    · rw [String.append_assoc, String.append_assoc] at h'
      exact (hlong h').elim
    · exact ⟨none, hsame h' ▸ hl, rfl⟩
    · exact ⟨_, hsame h' ▸ hl, rfl⟩
    · exact ⟨_, hsame h' ▸ hl, rfl⟩
    · exact ⟨_, hsame h' ▸ hl, by simp only [Option.map_some, attached_of_ne hne]⟩
  · rintro ⟨_ | ⟨t, _ | ⟨d, v⟩⟩, hl, rfl⟩
    · refine .letters h hl ?_
      rintro rfl
      rcases letters_cons_iff.1 hl with ⟨t, -, -, hr⟩ | ⟨s, i, js, -, -, -, hr⟩ <;> cases hr
    · exact .lettersNext h hl
    · by_cases hd : d = '='
      · subst hd
        exact .lettersValue h hl
      · simp only [Option.map_some, attached_of_ne hd]
        exact .lettersJoined h hl hd

theorem readOption_long (h : argument = "--" ++ String.ofList cs) :
    readOption o argument = .ok (.options o₁, r) ↔
      ∃ items, Opens argument items r ∧ o.addAll? items = some o₁ := by
  have hcs : argument.toList = '-' :: '-' :: cs := by rw [h]; simp
  simp only [opens_long_iff h, readOption, hcs]
  generalize splitLong cs = parts
  obtain ⟨n, value⟩ := parts
  simp only [Prod.mk.injEq, eq_comm (a := n), ← CommandOption.ofName?_eq_some_iff]
  rcases CommandOption.ofName? n with _ | s | t
  · simp
  · cases value with
    | none =>
      rw [map_eq_ok_iff]
      constructor
      · rintro ⟨step, hstep, heq⟩
        cases heq
        obtain ⟨i, hi, hadd⟩ := turnOn_eq_options_iff.1 hstep
        exact ⟨[i], .inl ⟨s, i, ⟨rfl, rfl⟩, hi, rfl, rfl⟩, by simpa [Options.addAll?] using hadd⟩
      · rintro ⟨items, ⟨s', i, ⟨hs, -⟩, hi, rfl, rfl⟩ | ⟨t, value, ⟨ht, -⟩, -⟩, hall⟩
        · cases hs
          exact ⟨_, turnOn_eq_options_iff.2 ⟨i, hi, by simpa [Options.addAll?] using hall⟩, rfl⟩
        · cases ht
    | some v => simp
  · constructor
    · rintro ⟨⟩
      exact ⟨[], .inr ⟨t, value, ⟨rfl, rfl⟩, rfl, rfl⟩, rfl⟩
    · rintro ⟨items, ⟨s, i, ⟨hs, -⟩, -⟩ | ⟨t', value', ⟨ht, rfl⟩, rfl, rfl⟩, hall⟩
      · cases hs
      · cases ht
        cases hall
        rfl

theorem readOption_of_ne (h : argument = "-" ++ String.ofList (c :: cs)) (hc : c ≠ '-') :
    readOption o argument = (letters o (c :: cs)).map fun (step, setting) =>
      (step, setting.map fun (t, rest) => (t, attached rest)) := by
  have hcs : argument.toList = '-' :: c :: cs := by rw [h]; simp
  unfold readOption
  rw [hcs]
  split
  · simp_all
  · rfl

theorem readOption_letters (h : argument = "-" ++ String.ofList (c :: cs)) (hc : c ≠ '-') :
    readOption o argument = .ok (.options o₁, r) ↔
      ∃ items, Opens argument items r ∧ o.addAll? items = some o₁ := by
  simp only [opens_letters_iff h hc]
  rw [readOption_of_ne h hc, map_eq_ok_iff]
  constructor
  · rintro ⟨⟨step, rest⟩, hl, heq⟩
    cases heq
    obtain ⟨items, hitems, hall⟩ := letters_eq_options_iff.1 hl
    exact ⟨items, ⟨rest, hitems, rfl⟩, hall⟩
  · rintro ⟨items, ⟨rest, hitems, rfl⟩, hall⟩
    exact ⟨_, letters_eq_options_iff.2 ⟨items, hitems, hall⟩, rfl⟩

theorem option_cases (h : isOption argument = true) :
    (∃ cs, argument = "--" ++ String.ofList cs) ∨
      ∃ c cs, argument = "-" ++ String.ofList (c :: cs) ∧ c ≠ '-' := by
  obtain ⟨c, cs, hcs⟩ := isOption_iff.1 h
  by_cases hc : c = '-'
  · subst hc
    refine .inl ⟨cs, ?_⟩
    rw [← String.toList_inj, hcs]
    simp
  · refine .inr ⟨c, cs, ?_, hc⟩
    rw [← String.toList_inj, hcs]
    simp

/-- **An argument with a dash is read as the items that it says.** -/
theorem readOption_eq_options_iff (h : isOption argument = true) :
    readOption o argument = .ok (.options o₁, r) ↔
      ∃ items, Opens argument items r ∧ o.addAll? items = some o₁ := by
  rcases option_cases h with ⟨cs, hcs⟩ | ⟨c, cs, hcs, hc⟩
  · exact readOption_long hcs
  · exact readOption_letters hcs hc

theorem ne_run_of_readOption {q : Request} (h : isOption argument = true)
    (hq : readOption o argument = .ok (.request q, r)) (f : String) (o' : Options) :
    q ≠ .run f o' := by
  rcases option_cases h with ⟨cs, hcs⟩ | ⟨c, cs, hcs, hc⟩
  · have hchars : argument.toList = '-' :: '-' :: cs := by rw [hcs]; simp
    simp only [readOption, hchars] at hq
    split at hq
    · cases hq
    · cases hq
    · cases hq
    · obtain ⟨step, hstep, heq⟩ := map_eq_ok_iff.1 hq
      cases heq
      exact ne_run_of_turnOn hstep f o'
  · rw [readOption_of_ne hcs hc, map_eq_ok_iff] at hq
    obtain ⟨⟨step, rest⟩, hl, heq⟩ := hq
    cases heq
    exact ne_run_of_letters hl f o'

theorem isOption_of_opens (h : Opens argument items r) :
    isOption argument = true ∧ argument ≠ "--" := by
  have hlong {p : CommandOption} {n : String} (h' : argument = "--" ++ (p.name ++ n)) :
      isOption argument = true ∧ argument ≠ "--" := by
    have hname : p.name.toList ≠ [] := by
      rcases p with (_ | _ | _ | _ | _) | (_ | _ | _) <;> decide
    refine ⟨isOption_iff.2 ⟨_, _, by rw [h', String.toList_append]; rfl⟩, ?_⟩
    rw [h', ne_eq, ← String.toList_inj]
    simp [hname]
  have hletters {c : Char} {cs : List Char} {js : List Item} {rest : Option (Setting × List Char)}
      (h' : argument = "-" ++ String.ofList (c :: cs)) (hl : Letters (c :: cs) js rest) :
      isOption argument = true ∧ argument ≠ "--" := by
    refine ⟨isOption_iff.2 ⟨c, cs, by rw [h']; simp⟩, ?_⟩
    rw [h', ne_eq, ← String.toList_inj]
    simp [hl.ne_dash]
  rcases h with ⟨h', hi⟩ | ⟨h'⟩ | ⟨h'⟩ | @⟨_ | _, _, h', hl, hne⟩ | @⟨_ | _, _, _, h', hl⟩ |
    @⟨_ | _, _, _, _, h', hl⟩ | @⟨_ | _, _, _, _, _, h', hl, -⟩
  · exact hlong (n := "") (by simpa using h')
  · exact hlong (n := "") (by simpa using h')
  · exact hlong (by rwa [String.append_assoc, String.append_assoc] at h')
  · cases hl
    exact absurd rfl hne
  · exact hletters h' hl
  · cases hl
  · exact hletters h' hl
  · cases hl
  · exact hletters h' hl
  · cases hl
  · exact hletters h' hl

end

end CommandLine

end EchoProbe
