import EchoProbe.Classification

/-!
# What a reply is taken to tell

A reply is judged by four of its fields: where it comes from, and version, type and code of the
message. Any of them may be missing or of a type that says nothing.

* `Probe.Has` says that a probe has a value under a key, and `Value.Denotes` that a value stands for
  an address; `Probe.ComesFrom` and `IcmpHeader.In` read the four fields in these terms;
* `IcmpHeader.Listed` is the table of messages, in which no message has two outcomes;
* `Tells` says what a reply tells, and `classify_diagnosed` that this is what it is taken to tell,
  and that nothing but the four fields counts.
-/

namespace EchoProbe

/-! ### Values and fields -/

/-- A value stands for an address: a number as wide as one, or its text. -/
inductive Value.Denotes : Value → IpAddr → Prop
  | v4 (bits : Fin (2 ^ 32)) : Denotes (.int .int32 bits) (.v4 bits)
  | v6 (bits : Fin (2 ^ 128)) : Denotes (.int .int128 bits) (.v6 bits)
  | text {s : String} {a : IpAddr} : IpAddr.parse? s = some a → Denotes (.string s) a

theorem Value.address_eq_ok_iff {v : Value} {a : IpAddr} : v.address = .ok a ↔ v.Denotes a := by
  constructor
  · intro h
    unfold address at h
    split at h
    · cases h
      exact .v4 _
    · cases h
      exact .v6 _
    · split at h
      · rename_i hs
        cases h
        exact .text hs
      · cases h
    · cases h
  · rintro (bits | bits | hs)
    · rfl
    · rfl
    · simp only [address, hs]

theorem Value.Denotes.unique {v : Value} {a a' : IpAddr} (h : v.Denotes a) (h' : v.Denotes a') :
    a = a' := by
  rw [← address_eq_ok_iff] at h h'
  exact Except.ok.inj (h.symm.trans h')

namespace Probe

/-- A probe has a value under a key. -/
def Has (p : Probe) (key : String) (v : Value) : Prop := (⟨key, v⟩ : Field) ∈ p.fields.toList

theorem value_eq_ok_iff {p : Probe} {key : String} {v : Value} :
    p.value key = .ok v ↔ p.Has key v := by
  unfold value Has
  cases hf : p.fields.find? key with
  | none =>
    simp only [reduceCtorEq, false_iff]
    intro hmem
    rw [FieldTable.find?_eq_some_iff.2 ⟨hmem, rfl⟩] at hf
    cases hf
  | some f =>
    obtain ⟨hmem, rfl⟩ := FieldTable.find?_eq_some_iff.1 hf
    simp only [Except.ok.injEq]
    constructor
    · rintro rfl
      exact hmem
    · intro hv
      rw [FieldTable.find?_eq_some_iff.2 ⟨hv, rfl⟩] at hf
      exact congrArg Field.value (Option.some.inj hf).symm

theorem Has.unique {p : Probe} {key : String} {v v' : Value} (h : p.Has key v)
    (h' : p.Has key v') : v = v' := by
  rw [← value_eq_ok_iff] at h h'
  exact Except.ok.inj (h.symm.trans h')

theorem address?_eq_some_iff {p : Probe} {key : String} {a : IpAddr} :
    p.address? key = some a ↔ ∃ v, p.Has key v ∧ v.Denotes a := by
  simp only [← value_eq_ok_iff, ← Value.address_eq_ok_iff, address?, address]
  cases p.value key with
  | error e => simp [Except.bind, Except.toOption]
  | ok v => cases hv : v.address <;> simp [Except.bind, Except.toOption, hv]

theorem extract?_eq_some_iff {p : Probe} {t : FieldType} {key : String} {c : t.Content} :
    p.extract? t key = some c ↔ p.Has key (.ofContent t c) := by
  rw [← value_eq_ok_iff]
  unfold extract? extract
  cases hp : p.value key with
  | error e => simp [Except.bind, Except.toOption]
  | ok v =>
    rw [Except.ok.injEq, ← Value.extract_eq_ok_iff]
    cases hv : v.extract t <;> simp [Except.bind, Except.toOption, hv]

/-- The sender of a probe is given as an address. -/
def ComesFrom (p : Probe) (a : IpAddr) : Prop := ∃ v, p.Has "src_ip" v ∧ v.Denotes a

theorem ComesFrom.unique {p : Probe} {a a' : IpAddr} (h : p.ComesFrom a) (h' : p.ComesFrom a') :
    a = a' := by
  obtain ⟨v, hv, ha⟩ := h
  obtain ⟨v', hv', ha'⟩ := h'
  cases hv.unique hv'
  exact ha.unique ha'

end Probe

/-! ### Headers -/

namespace IcmpHeader

/-- The fields of a reply spell a header. -/
structure In (reply : Probe) (h : IcmpHeader) : Prop where
  /-- The version is an integer of four bits or of eight. -/
  version : (∃ n, reply.Has "version" (.int .int4 n) ∧ n.val = h.version.number) ∨
    ∃ n, reply.Has "version" (.int .int8 n) ∧ n.val = h.version.number
  type : ∃ n, reply.Has "type" (.int .int8 n) ∧ n.val = h.type
  code : ∃ n, reply.Has "code" (.int .int8 n) ∧ n.val = h.code

theorem version?_eq_some_iff {reply : Probe} {n : Nat} :
    version? reply = some n ↔ (∃ k, reply.Has "version" (.int .int4 k) ∧ k.val = n) ∨
      ∃ k, reply.Has "version" (.int .int8 k) ∧ k.val = n := by
  unfold version?
  cases h4 : reply.extract? (.int .int4) "version" with
  | some k =>
    rw [Probe.extract?_eq_some_iff] at h4
    simp only [Option.some.injEq]
    constructor
    · rintro rfl
      exact .inl ⟨k, h4, rfl⟩
    · rintro (⟨k', h, rfl⟩ | ⟨k', h, -⟩)
      · cases h4.unique h
        rfl
      · cases h4.unique h
  | none =>
    have hno : ∀ k, ¬reply.Has "version" (.int .int4 k) := by
      intro k hk
      have hsome : reply.extract? (.int .int4) "version" = some k :=
        Probe.extract?_eq_some_iff.2 hk
      rw [h4] at hsome
      cases hsome
    constructor
    · intro h
      obtain ⟨k, hk, hn⟩ := Option.map_eq_some_iff.1 h
      exact .inr ⟨k, Probe.extract?_eq_some_iff.1 hk, hn⟩
    · rintro (⟨k, hk, -⟩ | ⟨k, hk, hn⟩)
      · exact (hno k hk).elim
      · exact Option.map_eq_some_iff.2 ⟨k, Probe.extract?_eq_some_iff.2 hk, hn⟩

theorem ofReply?_eq_some_iff {reply : Probe} {h : IcmpHeader} :
    ofReply? reply = some h ↔ In reply h := by
  constructor
  · intro hread
    obtain ⟨number, hnumber, hread⟩ := Option.bind_eq_some_iff.1 hread
    obtain ⟨version, hversion, hread⟩ := Option.bind_eq_some_iff.1 hread
    obtain ⟨type, htype, hread⟩ := Option.bind_eq_some_iff.1 hread
    obtain ⟨code, hcode, hread⟩ := Option.bind_eq_some_iff.1 hread
    obtain rfl := Option.some.inj hread
    rw [IpVersion.ofNumber?_eq_some_iff] at hversion
    subst hversion
    exact ⟨version?_eq_some_iff.1 hnumber, ⟨type, Probe.extract?_eq_some_iff.1 htype, rfl⟩,
      ⟨code, Probe.extract?_eq_some_iff.1 hcode, rfl⟩⟩
  · obtain ⟨version, type, code⟩ := h
    rintro ⟨hversion, ⟨t, ht, rfl⟩, ⟨c, hc, rfl⟩⟩
    refine Option.bind_eq_some_iff.2 ⟨_, version?_eq_some_iff.2 hversion, ?_⟩
    refine Option.bind_eq_some_iff.2 ⟨_, IpVersion.ofNumber?_eq_some_iff.2 rfl, ?_⟩
    refine Option.bind_eq_some_iff.2 ⟨t, Probe.extract?_eq_some_iff.2 ht, ?_⟩
    exact Option.bind_eq_some_iff.2 ⟨c, Probe.extract?_eq_some_iff.2 hc, rfl⟩

/-! ### The table -/

/-- The type and the code of a message are the ones given for its version. -/
def Is (h : IcmpHeader) (v4 v6 : Nat × Nat) : Prop :=
  (match h.version with
    | .v4 => v4
    | .v6 => v6) = (h.type, h.code)

/-- The type of a message is the one given for its version. -/
def HasType (h : IcmpHeader) (v4 v6 : Nat) : Prop :=
  (match h.version with
    | .v4 => v4
    | .v6 => v6) = h.type

/-- The table of messages, with type and code of either version. -/
inductive Listed (h : IcmpHeader) : Classification → Prop
  | networkUnreachable : h.Is (3, 0) (1, 0) → Listed h .networkUnreachable
  | hostUnreachable : h.Is (3, 1) (1, 3) → Listed h .hostUnreachable
  | protocolUnreachable : h.Is (3, 2) (4, 1) → Listed h .protocolUnreachable
  | portUnreachable : h.Is (3, 3) (1, 4) → Listed h .portUnreachable
  | ttlExceeded : h.Is (11, 0) (3, 0) → Listed h .ttlExceeded
  | reassemblyTimeExceeded : h.Is (11, 1) (3, 1) → Listed h .reassemblyTimeExceeded
  | redirect : h.HasType 5 137 → Listed h .redirect
  /-- Any code will do, but for the one that means an unreachable protocol. -/
  | parameterProblem : h.HasType 12 4 → h ≠ ⟨.v6, 4, 1⟩ → Listed h .parameterProblem

variable {h : IcmpHeader} {r : Classification}

theorem applies_exact_iff {t c t' c' : Nat} :
    (⟨r, ⟨t, some c⟩, ⟨t', some c'⟩⟩ : Rule).applies h = true ↔ h.Is (t, c) (t', c') := by
  obtain ⟨version, type, code⟩ := h
  cases version <;> simp [Rule.applies, Rule.pattern, IcmpPattern.fits, Is]

theorem applies_any_iff {t t' : Nat} :
    (⟨r, ⟨t, none⟩, ⟨t', none⟩⟩ : Rule).applies h = true ↔ h.HasType t t' := by
  obtain ⟨version, type, code⟩ := h
  cases version <;> simp [Rule.applies, Rule.pattern, IcmpPattern.fits, HasType]

theorem outcome_of_listed (hl : Listed h r) : h.outcome = r := by
  obtain ⟨version, type, code⟩ := h
  cases hl with
  | networkUnreachable hi | hostUnreachable hi | protocolUnreachable hi | portUnreachable hi
  | ttlExceeded hi | reassemblyTimeExceeded hi => cases version <;> cases hi <;> rfl
  | redirect ht =>
    cases version <;> cases ht <;>
      simp [outcome, rules, Rule.applies, Rule.pattern, IcmpPattern.fits]
  | parameterProblem ht hne =>
    cases version with
    | v4 =>
      cases ht
      simp [outcome, rules, Rule.applies, Rule.pattern, IcmpPattern.fits]
    | v6 =>
      cases ht
      have hcode : 1 ≠ code := by
        rintro rfl
        exact hne rfl
      simp [outcome, rules, Rule.applies, Rule.pattern, IcmpPattern.fits, hcode]

/-- A rule that applies to a message lists its outcome, but for the one message to which two rules
apply. -/
theorem listed_of_applies (hne : h ≠ ⟨.v6, 4, 1⟩) {rule : Rule} (hrule : rule ∈ rules)
    (happ : rule.applies h = true) : Listed h rule.outcome := by
  simp only [rules, List.mem_cons, List.not_mem_nil, or_false] at hrule
  rcases hrule with rfl | rfl | rfl | rfl | rfl | rfl | rfl | rfl
  · exact .networkUnreachable (applies_exact_iff.1 happ)
  · exact .hostUnreachable (applies_exact_iff.1 happ)
  · exact .protocolUnreachable (applies_exact_iff.1 happ)
  · exact .portUnreachable (applies_exact_iff.1 happ)
  · exact .ttlExceeded (applies_exact_iff.1 happ)
  · exact .reassemblyTimeExceeded (applies_exact_iff.1 happ)
  · exact .redirect (applies_any_iff.1 happ)
  · exact .parameterProblem (applies_any_iff.1 happ) hne

/-- What is found is listed, unless it is nothing. -/
theorem listed_outcome_or (h : IcmpHeader) :
    Listed h h.outcome ∨ h.outcome = .other ∧ ∀ r, ¬Listed h r := by
  by_cases hne : h = ⟨.v6, 4, 1⟩
  · subst hne
    exact .inl (.protocolUnreachable rfl)
  · cases hr : rules.find? (·.applies h) with
    | some rule =>
      have ho : h.outcome = rule.outcome := by rw [outcome, hr]
      have happ : rule.applies h = true := List.find?_some (p := fun x : Rule => x.applies h) hr
      rw [ho]
      exact .inl (listed_of_applies hne (List.mem_of_find?_eq_some hr) happ)
    | none =>
      have ho : h.outcome = .other := by rw [outcome, hr]
      refine .inr ⟨ho, ?_⟩
      intro r hl
      have hother := outcome_of_listed hl
      rw [ho] at hother
      subst hother
      cases hl

/-- **The outcome of a message is the one listed,** and none if none is. -/
theorem outcome_eq_iff :
    h.outcome = r ↔ Listed h r ∨ r = .other ∧ ∀ r', ¬Listed h r' := by
  constructor
  · rintro rfl
    exact h.listed_outcome_or
  · rintro (hl | ⟨rfl, hno⟩)
    · exact outcome_of_listed hl
    · exact (h.listed_outcome_or.resolve_left (hno _)).1

end IcmpHeader

/-! ### Replies -/

/-- What a reply to a probe for `target` tells. -/
inductive Tells (target : IpAddr) (reply : Probe) : Classification → Prop
  /-- It comes from the target, whatever else it says. -/
  | reached : reply.ComesFrom target → Tells target reply .reached
  /-- It carries a message that is listed. -/
  | listed {h : IcmpHeader} {r : Classification} : ¬reply.ComesFrom target → h.In reply →
      h.Listed r → Tells target reply r
  /-- It carries another message. -/
  | unlisted {h : IcmpHeader} : ¬reply.ComesFrom target → h.In reply → (∀ r, ¬h.Listed r) →
      Tells target reply .other
  /-- It carries no message that can be read. -/
  | illegible : ¬reply.ComesFrom target → (∀ h : IcmpHeader, ¬h.In reply) →
      Tells target reply .other

variable {target : IpAddr} {reply : Probe}

theorem tells_classify (target : IpAddr) (reply : Probe) :
    Tells target reply (classify target reply) := by
  unfold classify
  split
  · rename_i hfrom
    exact .reached (Probe.address?_eq_some_iff.1 hfrom)
  · rename_i hfrom
    have hnot : ¬reply.ComesFrom target := fun h => hfrom (Probe.address?_eq_some_iff.2 h)
    cases hh : IcmpHeader.ofReply? reply with
    | some h =>
      have hin := IcmpHeader.ofReply?_eq_some_iff.1 hh
      rcases h.listed_outcome_or with hl | ⟨ho, hno⟩
      · exact .listed hnot hin hl
      · dsimp only
        rw [ho]
        exact .unlisted hnot hin hno
    | none =>
      refine .illegible hnot ?_
      intro h hin
      rw [IcmpHeader.ofReply?_eq_some_iff.2 hin] at hh
      cases hh

theorem classify_of_tells {r : Classification} (h : Tells target reply r) :
    classify target reply = r := by
  unfold classify
  cases h with
  | reached hfrom => exact if_pos (Probe.address?_eq_some_iff.2 hfrom)
  | listed hnot hin hl =>
    rw [if_neg fun h => hnot (Probe.address?_eq_some_iff.1 h),
      IcmpHeader.ofReply?_eq_some_iff.2 hin]
    exact IcmpHeader.outcome_of_listed hl
  | unlisted hnot hin hno =>
    rw [if_neg fun h => hnot (Probe.address?_eq_some_iff.1 h),
      IcmpHeader.ofReply?_eq_some_iff.2 hin]
    exact IcmpHeader.outcome_eq_iff.2 (.inr ⟨rfl, hno⟩)
  | illegible hnot hno =>
    have hnone : IcmpHeader.ofReply? reply = none := by
      cases hh : IcmpHeader.ofReply? reply with
      | none => rfl
      | some h => exact (hno h (IcmpHeader.ofReply?_eq_some_iff.1 hh)).elim
    rw [if_neg fun h => hnot (Probe.address?_eq_some_iff.1 h), hnone]

theorem classify_eq_reached_iff : classify target reply = .reached ↔ reply.ComesFrom target := by
  constructor
  · intro h
    have ht := tells_classify target reply
    rw [h] at ht
    cases ht with
    | reached hfrom => exact hfrom
    | listed _ _ hl => cases hl
  · intro hfrom
    exact classify_of_tells (.reached hfrom)

/-- The keys of the fields that count. -/
def telling : List String := ["src_ip", "version", "type", "code"]

theorem Probe.value_congr {p q : Probe} {key : String}
    (h : p.fields.find? key = q.fields.find? key) : p.value key = q.value key := by
  rw [value, value, h]

theorem Probe.extract?_congr {p q : Probe} {key : String} (t : FieldType)
    (h : p.value key = q.value key) : p.extract? t key = q.extract? t key := by
  rw [extract?, extract, h]
  rfl

theorem Probe.address?_congr {p q : Probe} {key : String} (h : p.value key = q.value key) :
    p.address? key = q.address? key := by
  rw [address?, address, h]
  rfl

theorem IcmpHeader.ofReply?_congr {reply' : Probe}
    (h : ∀ key ∈ telling, key ≠ "src_ip" → reply'.value key = reply.value key) :
    ofReply? reply' = ofReply? reply := by
  have hversion := h "version" (by decide) (by decide)
  have htype := h "type" (by decide) (by decide)
  have hcode := h "code" (by decide) (by decide)
  unfold ofReply? version?
  rw [Probe.extract?_congr _ hversion, Probe.extract?_congr _ hversion,
    Probe.extract?_congr _ htype, Probe.extract?_congr _ hcode]

/-- Nothing counts but the four fields. -/
theorem classify_congr {reply' : Probe}
    (h : ∀ key ∈ telling, reply'.fields.find? key = reply.fields.find? key) :
    classify target reply' = classify target reply := by
  have hvalue : ∀ key ∈ telling, reply'.value key = reply.value key :=
    fun key hkey => Probe.value_congr (h key hkey)
  rw [classify, classify, Probe.address?_congr (hvalue "src_ip" (by decide)),
    IcmpHeader.ofReply?_congr fun key hkey _ => hvalue key hkey]

/-- A reply is taken to tell what it tells, and nothing but four of its fields counts. -/
structure Diagnosed (target : IpAddr) (reply : Probe) : Prop where
  tells (r : Classification) : classify target reply = r ↔ Tells target reply r
  /-- Only a reply from the target itself means that the target was reached. -/
  reached : classify target reply = .reached ↔ reply.ComesFrom target
  /-- A reply comes from one host; an address of version 6 that maps one of version 4 is another
  host. -/
  one (target' : IpAddr) : classify target reply = .reached → classify target' reply = .reached →
    target' = target
  /-- A field with another key does not count. -/
  field (f : Field) : f.key ∉ telling →
    classify target (reply.setField f) = classify target reply
  /-- Neither do the order of the fields, the times and the delay. -/
  order (reply' : Probe) : reply'.fields.toList.Perm reply.fields.toList →
    classify target reply' = classify target reply

/-- **Replies are taken to tell what they tell**, for every target and whatever fields there are. -/
theorem classify_diagnosed (target : IpAddr) (reply : Probe) : Diagnosed target reply where
  tells r := ⟨fun h => h ▸ tells_classify target reply, classify_of_tells⟩
  reached := classify_eq_reached_iff
  one _ h h' := (classify_eq_reached_iff.1 h').unique (classify_eq_reached_iff.1 h)
  field f hf := by
    refine classify_congr fun key hkey => ?_
    have hne : f.key ≠ key := fun h => hf (h ▸ hkey)
    exact (FieldTable.find?_set ..).trans (if_neg hne)
  order reply' h := classify_congr fun key _ => FieldTable.find?_eq_of_perm h key

/-- The address that maps the target is not the target. -/
example :
    let reply : Probe := { Probe.empty with fields := .ofList [.string "src_ip" "::ffff:0.0.0.1"] }
    classify (.v6 ⟨0xffff00000001, by decide⟩) reply = .reached ∧
      classify (.v4 ⟨1, by decide⟩) reply = .other := by
  decide +kernel

end EchoProbe
