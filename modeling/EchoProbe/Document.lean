import EchoProbe.Radix

/-!
# Data of a file

A `Document` is what a data file says, whatever its notation. The functions of this module take it
apart:

* `Document.text?`, `Document.flag?`, `Document.unsigned?` and `Document.list?` read a single
  value;
* `Members` are the members of a record, given by name or, as a list, by position;
  `Members.required?`, `Members.optional?` and `Members.default?` read one of them.
-/

namespace EchoProbe

/-- What a data file says. -/
inductive Document
  /-- Nothing. -/
  | null
  | boolean (b : Bool)
  /-- A whole number. -/
  | integer (n : Int)
  /-- A number with a point or an exponent, of which only the kind matters. -/
  | fraction
  /-- A date, a time or both, of which only the kind matters. -/
  | date
  | string (s : String)
  | list (items : List Document)
  /-- Named members, in order. -/
  | record (members : List (String × Document))

instance : Inhabited Document := ⟨.null⟩

namespace Document

/-- The text that is meant. -/
def text? : Document → Option String
  | string s => some s
  | _ => none

/-- The truth value that is meant. -/
def flag? : Document → Option Bool
  | boolean b => some b
  | _ => none

/-- The whole number that is meant, if it is not negative and below `limit`. -/
def unsigned? (limit : Nat) : Document → Option Nat
  | integer n => if 0 ≤ n ∧ n < limit then some n.toNat else none
  | _ => none

/-- The byte that is meant. -/
def byte? (d : Document) : Option UInt8 := (d.unsigned? (2 ^ 8)).map UInt8.ofNat

/-- The number of 64 bits that is meant. -/
def word? (d : Document) : Option UInt64 := (d.unsigned? (2 ^ 64)).map UInt64.ofNat

/-- The list that is meant, with every item read by `item`. -/
def list? {α : Type} (item : Document → Option α) : Document → Option (List α)
  | list items => items.mapM item
  | _ => none

/-- What is meant, unless that is nothing. -/
def option? {α : Type} (read : Document → Option α) : Document → Option (Option α)
  | null => some none
  | d => (read d).map some

end Document

/-- The members of a record. -/
inductive Members
  /-- By name. -/
  | named (members : List (String × Document))
  /-- By position. -/
  | positional (items : List Document)

namespace Members

variable {α : Type}

/-- The members that a document gives, `count` of them at most. Where `surplus` is allowed, a list
may go on after them. -/
def ofDocument? (surplus : Bool) (count : Nat) : Document → Option Members
  | .record members => some (named members)
  | .list items => if surplus || items.length ≤ count then some (positional items) else none
  | _ => none

/-- The member with a name, or at a position. -/
def find? (m : Members) (position : Nat) (name : String) : Option Document :=
  match m with
  | named members => (members.find? (·.1 = name)).map Prod.snd
  | positional items => items[position]?

/-- A member that must be there. -/
def required? (m : Members) (read : Document → Option α) (position : Nat) (name : String) :
    Option α :=
  (m.find? position name).bind read

/-- A member that may be absent where members have names; at a position it may be nothing. -/
def optional? (m : Members) (read : Document → Option α) (position : Nat) (name : String) :
    Option (Option α) :=
  match m.find? position name, m with
  | some d, _ => d.option? read
  | none, named _ => some none
  | none, positional _ => none

/-- A member that has a default. -/
def default? (m : Members) (read : Document → Option α) (default : α) (position : Nat)
    (name : String) : Option α :=
  match m.find? position name with
  | some d => read d
  | none => some default

end Members

end EchoProbe
