import EchoProbe.Address

/-!
# The names of hosts

A `Resolver` looks up the name of an address. A `Hosts` table gives names to addresses, in the order
of the addresses: `Hosts.insert` gives an address a name, in place of any name it had, and
`Hosts.find?` looks it up, so that a table can serve as a resolver.
-/

namespace EchoProbe

namespace IpAddr

theorem before_trans {a b c : IpAddr} (h : a.before b = true) (h' : b.before c = true) :
    a.before c = true := by
  cases a <;> cases b <;> cases c <;> simp_all [before] <;> omega

theorem eq_of_not_before {a b : IpAddr} (h : a.before b = false) (h' : b.before a = false) :
    a = b := by
  cases a <;> cases b <;> simp_all [before] <;> omega

end IpAddr

/-- Gives an address a name, in place of any name it had. -/
def insertHost (a : IpAddr) (name : String) : List (IpAddr × String) → List (IpAddr × String)
  | [] => [(a, name)]
  | (b, other) :: rest =>
    if a.before b then (a, name) :: (b, other) :: rest
    else if b.before a then (b, other) :: insertHost a name rest
    else (a, name) :: rest

theorem mem_insertHost {a : IpAddr} {name : String} {hs : List (IpAddr × String)}
    {x : IpAddr × String} (h : x ∈ insertHost a name hs) : x = (a, name) ∨ x ∈ hs := by
  induction hs with
  | nil => exact Or.inl (List.mem_singleton.1 h)
  | cons y rest ih =>
    simp only [insertHost] at h
    split at h
    · exact List.mem_cons.1 h
    · split at h
      · rcases List.mem_cons.1 h with h | h
        · exact Or.inr (h ▸ List.mem_cons_self)
        · exact (ih h).imp_right (List.mem_cons_of_mem _)
      · exact (List.mem_cons.1 h).imp_right (List.mem_cons_of_mem _)

/-- Names of addresses, in the order of the addresses. -/
structure Hosts where
  /-- The addresses and their names. -/
  toList : List (IpAddr × String)
  /-- Each address comes before those after it. -/
  sorted : toList.Pairwise fun x y => x.1.before y.1 = true

namespace Hosts

/-- The table without names. -/
def empty : Hosts := ⟨[], .nil⟩

/-- Gives an address a name, in place of any name it had. -/
def insert (t : Hosts) (a : IpAddr) (name : String) : Hosts :=
  ⟨insertHost a name t.toList, by
    have h := t.sorted
    revert h
    generalize t.toList = hs
    intro h
    induction hs with
    | nil => exact List.pairwise_singleton _ _
    | cons y rest ih =>
      obtain ⟨hy, hrest⟩ := List.pairwise_cons.1 h
      simp only [insertHost]
      split
      · rename_i hay
        refine List.pairwise_cons.2 ⟨fun z hz => ?_, h⟩
        rcases List.mem_cons.1 hz with rfl | hz
        · exact hay
        · exact IpAddr.before_trans hay (hy z hz)
      · split
        · rename_i hya
          refine List.pairwise_cons.2 ⟨fun z hz => ?_, ih hrest⟩
          rcases mem_insertHost hz with rfl | hz
          · exact hya
          · exact hy z hz
        · rename_i hay hya
          have e : a = y.1 := IpAddr.eq_of_not_before (by simpa using hay) (by simpa using hya)
          exact List.pairwise_cons.2 ⟨fun z hz => e ▸ hy z hz, hrest⟩⟩

/-- The table of some names; of two names of one address the later stays. -/
def ofList (hs : List (IpAddr × String)) : Hosts :=
  hs.foldl (fun t (a, name) => t.insert a name) empty

/-- The name of an address. -/
def find? (t : Hosts) (a : IpAddr) : Option String :=
  (t.toList.find? fun x => x.1 = a).map Prod.snd

end Hosts

/-- A way to look up the names of addresses. -/
structure Resolver where
  /-- The name of an address. -/
  find? : IpAddr → Option String

instance : Coe Hosts Resolver := ⟨fun t => ⟨t.find?⟩⟩

end EchoProbe
