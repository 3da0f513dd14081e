import EchoProbe.Radix

/-!
# Addresses

* `IpVersion` is the version of the internet protocol, `IpVersion.ofNumber?` its reading from the
  version field of a header;
* `IpAddr` is an address of either version; addresses are ordered by version, then by number.
-/

namespace EchoProbe

/-- A version of the internet protocol. -/
inductive IpVersion
  | v4
  | v6
deriving DecidableEq

namespace IpVersion

/-- What the version field of a header holds. -/
def number : IpVersion → Nat
  | v4 => 4
  | v6 => 6

/-- The version whose number is `n`. -/
def ofNumber? : Nat → Option IpVersion
  | 4 => some v4
  | 6 => some v6
  | _ => none

/-- The name of a version. -/
def name : IpVersion → String
  | v4 => "IPv4"
  | v6 => "IPv6"

theorem ofNumber?_eq_some_iff {n : Nat} {v : IpVersion} : ofNumber? n = some v ↔ n = v.number := by
  unfold ofNumber?
  split <;> cases v <;> simp_all [number]

end IpVersion

/-- An internet address, as the number that its bits spell. -/
inductive IpAddr
  | v4 (bits : Fin (2 ^ 32))
  | v6 (bits : Fin (2 ^ 128))
deriving DecidableEq

namespace IpAddr

/-- The version an address belongs to. -/
def version : IpAddr → IpVersion
  | v4 _ => .v4
  | v6 _ => .v6

/-- The address stands for no host: all its bits are zero. -/
def isUnspecified : IpAddr → Bool
  | v4 bits => bits.val == 0
  | v6 bits => bits.val == 0

/-- The order of addresses: the older version first, then by number. -/
def before : IpAddr → IpAddr → Bool
  | v4 a, v4 b => a.val < b.val
  | v4 _, v6 _ => true
  | v6 _, v4 _ => false
  | v6 a, v6 b => a.val < b.val

end IpAddr

end EchoProbe
