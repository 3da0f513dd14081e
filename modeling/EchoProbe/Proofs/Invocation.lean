import EchoProbe.Program
import EchoProbe.Proofs.Words

/-!
# The program and the simulation

The program has to make of its arguments and of a file what a simulation would make of the scenario
in that file.

* `CommandLine.Spells` is what arguments say, one item after the other, `CommandLine.Phrase` is how
  one item can be put, and phrases can follow each other in any order (`spells_flatten`);
* `CommandLine.Accepts` adds that no option says two items and that one of them is the file, and
  **`CommandLine.parse_eq_run_iff`** that these are the command lines that ask for a run, and with
  which options;
* `Scenario.revised` and `Flags.ofItems` are what the items mean for a simulation, and
  `Program.Result.Agrees` that the program shows just what comes of it;
* **`Program.run_agrees`** says so of every command line and every text, and
  `Program.run_eq_of_perm` that neither order nor spelling matters.
-/

namespace EchoProbe

namespace CommandLine

variable {o o₁ o' : Options} {argument name : String} {arguments rest : List String}
  {js items : List Item}

/-! ### Command lines -/

/-- Arguments begin with one or two that say some items, before the rest. -/
inductive Begins : List String → List Item → List String → Prop
  /-- What does not begin with a dash is a file. -/
  | file {name : String} {rest : List String} : isOption name = false →
      Begins (name :: rest) [.file name] rest
  /-- Switches are said at once, -/
  | switches {argument : String} {js : List Item} {rest : List String} : Opens argument js none →
      Begins (argument :: rest) js rest
  /-- and so is a setting that has its value, -/
  | setting {argument : String} {js : List Item} {t : Setting} {v : String} {i : Item}
      {rest : List String} : Opens argument js (some (t, some v)) → i.option? = some (.setting t) →
      i.Value v → Begins (argument :: rest) (js ++ [i]) rest
  /-- but one that does not takes the next argument, unless it looks like an option. -/
  | settingNext {argument : String} {js : List Item} {t : Setting} {v : String} {i : Item}
      {rest : List String} : Opens argument js (some (t, none)) → isOption v = false →
      i.option? = some (.setting t) → i.Value v → Begins (argument :: v :: rest) (js ++ [i]) rest

/-- Arguments say some items, one after the other. -/
inductive Spells : List String → List Item → Prop
  | nil : Spells [] []
  /-- Behind two dashes there are files only. -/
  | files (names : List String) : Spells ("--" :: names) (names.map .file)
  | cons {arguments rest : List String} {js items : List Item} : Begins arguments js rest →
      Spells rest items → Spells arguments (js ++ items)

/-- One item by itself: a switch by its long name or its letter, a setting also with its value,
which may be the next argument. -/
inductive Phrase : List String → Item → Prop
  | file {name : String} : isOption name = false → Phrase [name] (.file name)
  | long {s : Switch} {i : Item} : i.option? = some (.switch s) →
      Phrase ["--" ++ (CommandOption.switch s).name] i
  | letter {s : Switch} {i : Item} {c : Char} : i.option? = some (.switch s) →
      (CommandOption.switch s).letter? = some c → Phrase ["-" ++ String.ofList [c]] i
  | longValue {t : Setting} {i : Item} {v : String} : i.option? = some (.setting t) → i.Value v →
      Phrase ["--" ++ (CommandOption.setting t).name ++ "=" ++ v] i
  | longNext {t : Setting} {i : Item} {v : String} : i.option? = some (.setting t) → i.Value v →
      isOption v = false → Phrase ["--" ++ (CommandOption.setting t).name, v] i
  | letterValue {t : Setting} {i : Item} {c : Char} {v : List Char} :
      i.option? = some (.setting t) → i.Value (String.ofList v) →
      (CommandOption.setting t).letter? = some c → Phrase ["-" ++ String.ofList (c :: '=' :: v)] i
  | letterJoined {t : Setting} {i : Item} {c d : Char} {v : List Char} :
      i.option? = some (.setting t) → i.Value (String.ofList (d :: v)) →
      (CommandOption.setting t).letter? = some c → d ≠ '=' →
      Phrase ["-" ++ String.ofList (c :: d :: v)] i
  | letterNext {t : Setting} {i : Item} {v : String} {c : Char} : i.option? = some (.setting t) →
      i.Value v → (CommandOption.setting t).letter? = some c → isOption v = false →
      Phrase ["-" ++ String.ofList [c], v] i

theorem Phrase.begins {words : List String} {i : Item} (h : Phrase words i) (rest : List String) :
    Begins (words ++ rest) [i] rest := by
  cases h with
  | file hname => exact .file hname
  | long hi => exact .switches (.long rfl hi)
  | letter hi hc => exact .switches (.letters rfl (.switch hc hi .nil) (List.cons_ne_nil _ _))
  | longValue hi hv => exact .setting (.longValue rfl) hi hv
  | longNext hi hv hword => exact .settingNext (.longNext rfl) hword hi hv
  | letterValue hi hv hc => exact .setting (.lettersValue rfl (.setting hc)) hi hv
  | letterJoined hi hv hc hne => exact .setting (.lettersJoined rfl (.setting hc) hne) hi hv
  | letterNext hi hv hc hword => exact .settingNext (.lettersNext rfl (.setting hc)) hword hi hv

theorem spells_flatten {phrases : List (List String)} (h : List.Forall₂ Phrase phrases items) :
    Spells phrases.flatten items := by
  induction h with
  | nil => exact .nil
  | cons hphrase _ ih => exact .cons (hphrase.begins _) ih

theorem finish_eq_run_iff {f : String} :
    finish o = .ok (.run f o') ↔ o = o' ∧ o'.file = some f := by
  rw [finish]
  split
  · rename_i file hfile
    constructor
    · rintro ⟨⟩
      exact ⟨rfl, hfile⟩
    · rintro ⟨rfl, hf⟩
      rw [hfile] at hf
      cases hf
      rfl
  · rename_i hfile
    refine iff_of_false (by simp) ?_
    rintro ⟨rfl, hf⟩
    rw [hfile] at hf
    cases hf

theorem readAll_file (h : isOption name = false) :
    readAll o (name :: arguments) = (takeFile o name).bind fun o => readAll o arguments := by
  rw [readAll, h]
  · rfl
  · rintro rfl
    cases h

theorem readAll_option (h : isOption argument = true) (hne : argument ≠ "--") :
    readAll o (argument :: arguments) = (readOption o argument).bind fun
      | (.request q, _) => .ok q
      | (.options o, none) => readAll o arguments
      | (.options o, some (t, some v)) => (assign o t v).bind fun o => readAll o arguments
      | (.options o, some (t, none)) =>
        match arguments with
        | v :: arguments =>
          if isOption v then .error (.missingValue t)
          else (assign o t v).bind fun o => readAll o arguments
        | [] => .error (.missingValue t) := by
  rw [readAll, h]
  · rfl
  · exact hne

theorem readAll_files {names : List String} :
    readAll o ("--" :: names) = (names.foldlM takeFile o).bind finish := by
  rw [readAll]
  rfl

/-- One turn adds the items that the arguments begin with. -/
theorem Begins.readAll_eq (h : Begins arguments js rest) (hall : o.addAll? js = some o₁) :
    readAll o arguments = readAll o₁ rest := by
  cases h with
  | file hname =>
    rw [readAll_file hname, takeFile_eq_ok_iff.2 (Options.addAll?_singleton.symm.trans hall)]
    rfl
  | switches hopens =>
    obtain ⟨hdash, hne⟩ := isOption_of_opens hopens
    rw [readAll_option hdash hne, (readOption_eq_options_iff hdash).2 ⟨_, hopens, hall⟩]
    rfl
  | setting hopens hi hv =>
    obtain ⟨hdash, hne⟩ := isOption_of_opens hopens
    obtain ⟨o₂, hjs, hadd⟩ := Options.addAll?_concat.1 hall
    rw [readAll_option hdash hne, (readOption_eq_options_iff hdash).2 ⟨_, hopens, hjs⟩]
    exact congrArg (·.bind fun o => readAll o rest) (assign_eq_ok_iff.2 ⟨_, hi, hv, hadd⟩)
  | settingNext hopens hword hi hv =>
    obtain ⟨hdash, hne⟩ := isOption_of_opens hopens
    obtain ⟨o₂, hjs, hadd⟩ := Options.addAll?_concat.1 hall
    rw [readAll_option hdash hne, (readOption_eq_options_iff hdash).2 ⟨_, hopens, hjs⟩]
    simp only [Except.bind, hword, Bool.false_eq_true, if_false]
    exact congrArg (·.bind fun o => readAll o rest) (assign_eq_ok_iff.2 ⟨_, hi, hv, hadd⟩)

theorem exists_begins {f : String} (hne : argument ≠ "--")
    (h : readAll o (argument :: arguments) = .ok (.run f o')) :
    ∃ js rest o₁, Begins (argument :: arguments) js rest ∧ o.addAll? js = some o₁ ∧
      readAll o₁ rest = .ok (.run f o') := by
  cases hdash : isOption argument with
  | false =>
    rw [readAll_file hdash] at h
    obtain ⟨o₁, hadd, h⟩ := bind_eq_ok_iff.1 h
    exact ⟨_, _, o₁, .file hdash, Options.addAll?_singleton.trans (takeFile_eq_ok_iff.1 hadd), h⟩
  | true =>
    rw [readAll_option hdash hne] at h
    obtain ⟨⟨o₁ | q, r⟩, hread, h⟩ := bind_eq_ok_iff.1 h
    · obtain ⟨js, hopens, hjs⟩ := (readOption_eq_options_iff hdash).1 hread
      rcases r with _ | ⟨t, _ | v⟩
      · exact ⟨js, _, o₁, .switches hopens, hjs, h⟩
      · rcases arguments with _ | ⟨v, rest⟩
        · cases h
        · obtain ⟨hword, h⟩ := ite_error_eq_ok_iff.1 h
          obtain ⟨o₂, hassign, h⟩ := bind_eq_ok_iff.1 h
          obtain ⟨i, hi, hv, hadd⟩ := assign_eq_ok_iff.1 hassign
          exact ⟨_, rest, o₂, .settingNext hopens hword hi hv,
            Options.addAll?_concat.2 ⟨o₁, hjs, hadd⟩, h⟩
      · obtain ⟨o₂, hassign, h⟩ := bind_eq_ok_iff.1 h
        obtain ⟨i, hi, hv, hadd⟩ := assign_eq_ok_iff.1 hassign
        exact ⟨_, _, o₂, .setting hopens hi hv, Options.addAll?_concat.2 ⟨o₁, hjs, hadd⟩, h⟩
    · cases h
      exact absurd rfl (ne_run_of_readOption hdash hread f o')

theorem Begins.length_lt (h : Begins arguments js rest) : rest.length < arguments.length := by
  cases h with
  | file | switches | setting => exact Nat.lt_succ_self _
  | settingNext => exact Nat.lt_succ_of_lt (Nat.lt_succ_self _)

theorem readAll_of_spells {f : String} (h : Spells arguments items)
    (hall : o.addAll? items = some o') (hf : o'.file = some f) :
    readAll o arguments = .ok (.run f o') := by
  induction h generalizing o with
  | nil =>
    cases hall
    rw [readAll]
    exact finish_eq_run_iff.2 ⟨rfl, hf⟩
  | files names =>
    rw [readAll_files, foldlM_takeFile_eq_ok_iff.2 hall]
    exact finish_eq_run_iff.2 ⟨rfl, hf⟩
  | cons hbegins _ ih =>
    rw [Options.addAll?_append, Option.bind_eq_some_iff] at hall
    obtain ⟨o₁, hjs, hall⟩ := hall
    rw [hbegins.readAll_eq hjs]
    exact ih hall

theorem spells_of_readAll {f : String} (h : readAll o arguments = .ok (.run f o')) :
    ∃ items, Spells arguments items ∧ o.addAll? items = some o' ∧ o'.file = some f := by
  -- a setting may take the next argument, so that the rest is not always the tail
  induction hn : arguments.length using Nat.strongRecOn generalizing arguments o with
  | ind n ih
  subst hn
  rcases arguments with _ | ⟨argument, arguments⟩
  · rw [readAll, finish_eq_run_iff] at h
    exact ⟨[], .nil, congrArg some h.1, h.2⟩
  by_cases hfiles : argument = "--"
  · subst hfiles
    rw [readAll_files] at h
    obtain ⟨o₁, hall, hfin⟩ := bind_eq_ok_iff.1 h
    obtain ⟨rfl, hf⟩ := finish_eq_run_iff.1 hfin
    exact ⟨_, .files arguments, foldlM_takeFile_eq_ok_iff.1 hall, hf⟩
  · obtain ⟨js, rest, o₁, hbegins, hjs, h⟩ := exists_begins hfiles h
    obtain ⟨items, hitems, hall, hf⟩ := ih _ hbegins.length_lt h rfl
    refine ⟨js ++ items, .cons hbegins hitems, ?_, hf⟩
    rw [Options.addAll?_append, hjs]
    exact hall

/-- **A command line is read as the items that it says.** -/
theorem readAll_eq_run_iff {f : String} :
    readAll o arguments = .ok (.run f o') ↔
      ∃ items, Spells arguments items ∧ o.addAll? items = some o' ∧ o'.file = some f :=
  ⟨spells_of_readAll, fun ⟨_, h, hall, hf⟩ => readAll_of_spells h hall hf⟩

/-- A command line is accepted: it spells some items, no two of them by one option, and one of
them is the file. -/
structure Accepts (arguments : List String) (file : String) (items : List Item) : Prop where
  spells : Spells arguments items
  nodup : (items.map Item.option?).Nodup
  file_mem : .file file ∈ items

theorem parse_eq_ok_iff {q : Request} : parse arguments = .ok q ↔ readAll {} arguments = .ok q := by
  cases arguments with
  | nil =>
    rw [readAll]
    exact iff_of_false (fun h => by cases h) (fun h => by cases h)
  | cons argument arguments => exact Iff.rfl

/-- **The command lines that ask for a run** are those that are accepted, and the run is with the
options that say the same items. -/
theorem parse_eq_run_iff {file : String} :
    parse arguments = .ok (.run file o) ↔ ∃ items, Accepts arguments file items ∧ o.Says items := by
  rw [parse_eq_ok_iff, readAll_eq_run_iff]
  refine exists_congr fun items => ?_
  rw [Options.Says.empty.addAll?_iff, List.nil_append]
  constructor
  · rintro ⟨hspells, ho, hfile⟩
    have hget : o.get? none = some (.file file) := congrArg (Option.map Item.file) hfile
    exact ⟨⟨hspells, ho.nodup, ((ho.get?_iff _ _).1 hget).1⟩, ho⟩
  · rintro ⟨⟨hspells, -, hmem⟩, ho⟩
    have hget : o.get? none = some (.file file) := (ho.get?_iff _ _).2 ⟨hmem, rfl⟩
    obtain ⟨f, hf, heq⟩ := Option.map_eq_some_iff.1 hget
    cases heq
    exact ⟨hspells, ho, hf⟩

/-- Behind two dashes, a file may look like an option. -/
example : parse ["-qDi=50", "--", "-n"] =
    .ok (.run "-n" { file := "-n", interval := some 50, quiet := true, timestamp := true }) := by
  decide +kernel

end CommandLine

/-! ### The program -/

/-- The number of probes that an item gives. -/
def Item.count? : Item → Option UInt64
  | count n => some n
  | _ => none

/-- The time between two probes that an item gives, in milliseconds. -/
def Item.interval? : Item → Option UInt64
  | interval ms => some ms
  | _ => none

/-- A scenario with the values that items give in place of its own. -/
def Scenario.revised (s : Scenario) (items : List Item) : Scenario :=
  { s with
    count := (items.findSome? Item.count?).or s.count
    intervalMs := (items.findSome? Item.interval?).or s.intervalMs }

/-- The flags that items ask for. Hosts are shown by name unless their addresses are asked for. -/
def Flags.ofItems (items : List Item) : Flags where
  resolve := .numeric ∉ items
  timestamp := .timestamp ∈ items
  quiet := .quiet ∈ items

namespace Options.Says

variable {o : Options} {items : List Item}

theorem findSome?_eq {β : Type} {p : Item → Option β} {k : Option CommandOption} (h : o.Says items)
    (hp : ∀ i b, p i = some b → i.option? = k) : items.findSome? p = (o.get? k).bind p := by
  cases hfind : items.findSome? p with
  | none =>
    rw [List.findSome?_eq_none_iff] at hfind
    refine (Option.bind_eq_none_iff.2 fun i hi => ?_).symm
    exact hfind i ((h.get?_iff k i).1 hi).1
  | some b =>
    obtain ⟨i, hi, hb⟩ := List.exists_of_findSome?_eq_some hfind
    rw [(h.get?_iff k i).2 ⟨hi, hp i b hb⟩]
    exact hb.symm

theorem count_eq (h : o.Says items) : items.findSome? Item.count? = o.count := by
  rw [h.findSome?_eq (k := some (.setting .count))]
  · cases hc : o.count <;> simp [get?, hc, Item.count?]
  · intro i n hi
    cases i <;> cases hi
    rfl

theorem interval_eq (h : o.Says items) : items.findSome? Item.interval? = o.interval := by
  rw [h.findSome?_eq (k := some (.setting .interval))]
  · cases hc : o.interval <;> simp [get?, hc, Item.interval?]
  · intro i n hi
    cases i <;> cases hi
    rfl

theorem override_eq (h : o.Says items) (s : Scenario) : o.override s = s.revised items := by
  rw [override, Scenario.revised, h.count_eq, h.interval_eq]

theorem flags_eq (h : o.Says items) : o.flags = .ofItems items := by
  have hnumeric := h.get?_iff (some (.switch .numeric)) .numeric
  have hquiet := h.get?_iff (some (.switch .quiet)) .quiet
  have htimestamp := h.get?_iff (some (.switch .timestamp)) .timestamp
  simp only [get?, Item.option?, and_true, Option.ite_none_right_eq_some]
    at hnumeric hquiet htimestamp
  rw [flags, Flags.ofItems]
  simp [← hnumeric, ← hquiet, ← htimestamp]

end Options.Says

namespace Program

variable {arguments arguments' : List String} {file text : String} {items items' : List Item}
  {readFile : String → Except String String}

/-- The program shows what comes of a simulation of the scenario that a text holds, with the values
and the flags that some items give. -/
structure Result.Agrees (r : Result) (room : Room) (items : List Item) (text : String) : Prop where
  /-- Without a scenario nothing is printed, whatever the items are. -/
  malformed : Scenario.ofToml? text = none → r.output = .lines [] ∧ r.status = 1
  /-- Without an outcome nothing is printed either. -/
  rejected (s : Scenario) (e : Error) : Scenario.ofToml? text = some s →
    simulate room (s.revised items) (.ofItems items) = .error e → e ≠ .clockOverflow →
    r.output = .lines [] ∧ r.status = 1
  /-- An outcome is printed as a whole, also if there was a failure on the way. -/
  finished (s : Scenario) (outcome : Outcome) : Scenario.ofToml? text = some s →
    simulate room (s.revised items) (.ofItems items) = .ok outcome →
    r.output = .lines outcome.lines ∧ r.status = if outcome.failure.isSome then 1 else 0

theorem status_rejected {e : Error} (h : e ≠ .clockOverflow) : (Result.rejected e).status = 1 := by
  cases e with
  | clockOverflow => exact absurd rfl h
  | _ => rfl

theorem runText_agrees {o : Options} (h : o.Says items) (room : Room) (text : String) :
    (runText room o text).Agrees room items text where
  malformed hnone := by
    rw [runText, hnone]
    exact ⟨rfl, rfl⟩
  rejected s e hs he hclock := by
    rw [runText, hs]
    simp only [h.override_eq, h.flags_eq, he]
    exact ⟨rfl, status_rejected hclock⟩
  finished s outcome hs hok := by
    rw [runText, hs]
    simp only [h.override_eq, h.flags_eq, hok]
    exact ⟨rfl, rfl⟩

theorem exists_parse (h : CommandLine.Accepts arguments file items) :
    ∃ o : Options, o.Says items ∧ CommandLine.parse arguments = .ok (.run file o) := by
  obtain ⟨o, ho⟩ := Options.exists_options h.nodup
  exact ⟨o, ho, CommandLine.parse_eq_run_iff.2 ⟨items, h, ho⟩⟩

theorem run_of_parse {o : Options} (h : CommandLine.parse arguments = .ok (.run file o))
    (htext : readFile file = .ok text) (room : Room) :
    run room arguments readFile = runText room o text := by
  simp only [run, h, htext]

/-- Neither the order of what a command line says nor its spelling matters. -/
theorem run_eq_of_perm (room : Room) (h : CommandLine.Accepts arguments file items)
    (h' : CommandLine.Accepts arguments' file items') (hp : items.Perm items') :
    run room arguments readFile = run room arguments' readFile := by
  obtain ⟨o, ho, hparse⟩ := exists_parse h
  obtain ⟨o', ho', hparse'⟩ := exists_parse h'
  obtain rfl := (ho.perm hp).eq ho'
  rw [run, run, hparse, hparse']

/-- **The program agrees with the simulation.** A command line asks for a run exactly if it is
accepted, one that says some items in whatever words and order is, and the run shows what the
scenario in the file comes to with these items. -/
theorem run_agrees (room : Room) (file : String) (readFile : String → Except String String) :
    (∀ arguments, (∃ o, CommandLine.parse arguments = .ok (.run file o)) ↔
      ∃ items, CommandLine.Accepts arguments file items) ∧
    (∀ phrases items, List.Forall₂ CommandLine.Phrase phrases items →
      (items.map Item.option?).Nodup → .file file ∈ items →
      CommandLine.Accepts phrases.flatten file items) ∧
    ∀ arguments items text, CommandLine.Accepts arguments file items →
      readFile file = .ok text → (run room arguments readFile).Agrees room items text := by
  refine ⟨fun arguments => ⟨?_, ?_⟩, fun phrases items hphrases hnodup hmem => ?_,
    fun arguments items text h htext => ?_⟩
  · rintro ⟨o, ho⟩
    obtain ⟨items, h, -⟩ := CommandLine.parse_eq_run_iff.1 ho
    exact ⟨items, h⟩
  · rintro ⟨items, h⟩
    obtain ⟨o, -, ho⟩ := exists_parse h
    exact ⟨o, ho⟩
  · exact ⟨CommandLine.spells_flatten hphrases, hnodup, hmem⟩
  · obtain ⟨o, ho, hparse⟩ := exists_parse h
    rw [run_of_parse hparse htext]
    exact runText_agrees ho room text

/-- A text with a scenario whose network refuses the second probe. -/
def refusing (count : String) : String :=
  "name = \"refusing\"\ntarget = \"10.0.0.1\"\n" ++
    "send_failure = 1\ntimeout_ms = 100\ncount = " ++ count

/-- What the command line gives wins over the scenario, but a scenario that makes no sense cannot be
mended by it. -/
theorem run_agrees_refusing :
    let arguments := ["-nc", "2", "refusing.toml", "--interval=200"]
    let items := [Item.numeric, .count 2, .file "refusing.toml", .interval 200]
    let result (count : String) := run .ample arguments fun _ => .ok (refusing count)
    CommandLine.Accepts arguments "refusing.toml" items ∧
    CommandLine.Accepts ["-n", "-c", "2", "refusing.toml", "--interval=200"] "refusing.toml"
      items ∧
    (∀ count, (result count).Agrees .ample items (refusing count)) ∧
    (result "9").output = .lines ["PING 10.0.0.1 : 2 probes, interval=200 ms", "Timeout"] ∧
    (result "9").status = 1 ∧ (result "-9").output = .lines [] ∧ (result "-9").status = 1 := by
  intro arguments items result
  have hcount : (Item.count 2).Value "2" := ⟨['2'], .inl rfl, by decide, by simp, rfl⟩
  have hinterval : (Item.interval 200).Value "200" :=
    ⟨['2', '0', '0'], .inl rfl, by decide, by simp, rfl⟩
  have hletters : CommandLine.Opens "-nc" [.numeric] (some (.count, none)) :=
    .lettersNext rfl (.switch rfl rfl (.setting rfl))
  have hlong : CommandLine.Opens "--interval=200" [] (some (.interval, some "200")) :=
    .longValue rfl
  have haccepts : CommandLine.Accepts arguments "refusing.toml" items := by
    refine ⟨?_, by decide, by decide⟩
    exact .cons (.settingNext hletters (CommandLine.isOption_of_writes hcount) rfl hcount)
      (.cons (.file rfl) (.cons (.setting hlong rfl hinterval) .nil))
  have hphrases : List.Forall₂ CommandLine.Phrase
      [["-n"], ["-c", "2"], ["refusing.toml"], ["--interval=200"]] items := by
    refine .cons (.letter (s := .numeric) (c := 'n') rfl rfl) (.cons ?_ (.cons (.file rfl)
      (.cons (.longValue (t := .interval) (v := "200") rfl hinterval) .nil)))
    exact .letterNext (t := .count) (c := 'c') rfl hcount rfl
      (CommandLine.isOption_of_writes hcount)
  have hspelled := (run_agrees .ample "refusing.toml" fun _ => .ok (refusing "9")).2.1 _ _ hphrases
    (by decide) (by decide)
  have hagrees (count : String) : (result count).Agrees .ample items (refusing count) :=
    (run_agrees .ample "refusing.toml" _).2.2 arguments items _ haccepts rfl
  have hshown : ((Scenario.ofToml? (refusing "9")).bind fun s =>
      (simulate .ample (s.revised items) (.ofItems items)).toOption.map fun outcome =>
        (outcome.lines, outcome.failure.isSome)) =
      some (["PING 10.0.0.1 : 2 probes, interval=200 ms", "Timeout"], true) := by
    decide +kernel
  obtain ⟨s, hs, hshown⟩ := Option.bind_eq_some_iff.1 hshown
  obtain ⟨outcome, hok, hshown⟩ := Option.map_eq_some_iff.1 hshown
  rw [Prod.mk.injEq] at hshown
  have hsim : simulate .ample (s.revised items) (.ofItems items) = .ok outcome := by
    revert hok
    cases simulate .ample (s.revised items) (.ofItems items) with
    | error e => exact fun h => by cases h
    | ok o => exact fun h => congrArg Except.ok (Option.some.inj h)
  have hfinished := (hagrees "9").finished s outcome hs hsim
  rw [hshown.1, hshown.2, if_pos rfl] at hfinished
  have hsilent := (hagrees "-9").malformed (Option.isNone_iff_eq_none.1 (by decide +kernel))
  exact ⟨haccepts, hspelled, hagrees, hfinished.1, hfinished.2, hsilent⟩

end Program

end EchoProbe
