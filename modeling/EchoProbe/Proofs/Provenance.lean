import EchoProbe.Report
import EchoProbe.Proofs.Diagnosis
import EchoProbe.Proofs.Spelling

/-!
# Where a reply comes from, whichever way it is told

A field may tell an address by an integer as wide as it or by its text.

* `Value.Represents` lists the two ways, and `Value.Represents.denotes` says that either stands for
  the address;
* `classify_of_comesFrom` and `Report.source_of_comesFrom` say that of a reply's sender nothing but
  its address counts;
* `representations_interchangeable` is the result: the representations of an address are read as
  this address and no other, and a reply may tell its sender by any of them.
-/

namespace EchoProbe

/-! ### Representations -/

/-- How a value represents an address. -/
inductive Value.Represents : Value → IpAddr → Prop
  /-- As the integer that its bits spell. -/
  | integer (a : IpAddr) : Represents (.ofAddress a) a
  /-- As its canonical text. -/
  | text {s : String} {a : IpAddr} : a.Canonical s.toList → Represents (.string s) a

theorem Value.Represents.denotes {v : Value} {a : IpAddr} (h : v.Represents a) : v.Denotes a := by
  cases h with
  | integer a => exact address_eq_ok_iff.1 (address_ofAddress a)
  | text hs => exact .text (IpAddr.parse?_of_canonical hs)

theorem Value.Represents.canonical {s : String} {a : IpAddr}
    (h : (Value.string s).Represents a) : a.Canonical s.toList := by
  generalize hv : Value.string s = v at h
  cases h with
  | integer a => cases a <;> cases hv
  | text hs =>
    cases hv
    exact hs

/-! ### Senders -/

variable {a target : IpAddr} {reply reply' : Probe}

theorem Probe.comesFrom_setField {v : Value} (p : Probe) (h : v.Denotes a) :
    (p.setField ⟨"src_ip", v⟩).ComesFrom a := by
  refine ⟨v, value_eq_ok_iff.1 ?_, h⟩
  rw [value_setField]
  exact if_pos rfl

theorem classify_of_comesFrom (h : reply.ComesFrom a) (h' : reply'.ComesFrom a)
    (hrest : ∀ key ∈ telling, key ≠ "src_ip" → reply'.value key = reply.value key) :
    classify target reply' = classify target reply := by
  rw [classify, classify, Probe.address?_eq_some_iff.2 h, Probe.address?_eq_some_iff.2 h',
    IcmpHeader.ofReply?_congr hrest]

theorem Report.source_of_comesFrom (r : Report) (h : reply.ComesFrom a) :
    r.source reply = r.host a := by
  rw [source, Probe.address?_eq_some_iff.2 h]

/-- The representations of an address may stand for one another. -/
structure Interchangeable (a : IpAddr) : Prop where
  /-- The integer that the address is taken up as represents it, and so does its text, -/
  integer : (Value.ofAddress a).Represents a
  text : (Value.string a.text).Represents a
  /-- which is the only one that does. -/
  canonical (s : String) : (Value.string s).Represents a → s = a.text
  /-- Whatever represents the address is read as just this address, -/
  read (v : Value) : v.Represents a → v.address = .ok a
  /-- under any key of any probe, -/
  field (p : Probe) (key : String) (v : Value) : v.Represents a →
    (p.setField ⟨key, v⟩).address key = .ok a
  /-- and what represents another address is not read as this one. Of two addresses of which one
  maps the other, either is another. -/
  apart (a' : IpAddr) (v v' : Value) : v.Represents a → v'.Represents a' → a' ≠ a →
    v'.address ≠ v.address
  /-- A reply that tells its sender by one representation may do so by any other: it is taken to
  tell the same, -/
  classified (target : IpAddr) (reply : Probe) (v v' : Value) : reply.Has "src_ip" v →
    v.Represents a → v'.Represents a →
      classify target (reply.setField ⟨"src_ip", v'⟩) = classify target reply
  /-- and its sender is shown the same in every report. -/
  shown (r : Report) (reply : Probe) (v v' : Value) : reply.Has "src_ip" v → v.Represents a →
    v'.Represents a → r.source (reply.setField ⟨"src_ip", v'⟩) = r.source reply

/-- **It does not matter how an address is represented.** -/
theorem representations_interchangeable (a : IpAddr) : Interchangeable a where
  integer := .integer a
  text := .text a.canonical_text
  canonical _ h := String.toList_inj.1 (h.canonical.unique a.canonical_text)
  read v h := Value.address_eq_ok_iff.2 h.denotes
  field p key v h := by
    rw [Probe.address, Probe.value_setField, if_pos rfl]
    exact Value.address_eq_ok_iff.2 h.denotes
  apart a' v v' h h' hne heq := by
    rw [Value.address_eq_ok_iff.2 h.denotes, Value.address_eq_ok_iff.2 h'.denotes] at heq
    exact hne (Except.ok.inj heq)
  classified target reply v v' hv h h' := by
    refine classify_of_comesFrom ⟨v, hv, h.denotes⟩ (reply.comesFrom_setField h'.denotes) ?_
    intro key _ hkey
    rw [Probe.value_setField]
    exact if_neg hkey.symm
  shown r reply v v' hv h h' := by
    rw [r.source_of_comesFrom ⟨v, hv, h.denotes⟩,
      r.source_of_comesFrom (reply.comesFrom_setField h'.denotes)]

/-- The first of the longest runs of zeros is left out, and an older address is mapped by its
octets. -/
example :
    (IpAddr.v6 ⟨0x20010db8000000000001000000000001, by decide⟩).text = "2001:db8::1:0:0:1" ∧
      (IpAddr.v6 ⟨0xffff0a000001, by decide⟩).text = "::ffff:10.0.0.1" ∧
      (IpAddr.v4 ⟨0x0a000001, by decide⟩).text = "10.0.0.1" := by
  decide +kernel

end EchoProbe
