import EchoProbe.Document

/-!
# Tables

* a `Node` is what a name stands for in a table: a finished value, a table that may still grow, or
  a list of tables of which the last may grow;
* `update` changes the table that a path leads to, and makes the tables on the way to it;
* `assign` gives a dotted key a value;
* a `Draft` is a document of which some lines have been read: `Draft.openTable` and
  `Draft.openItem` answer the two kinds of headings, `Draft.document?` ends it.

A table comes to be in three ways: by its own heading, on the way to the heading of another one
(such a table may get its own heading later), or by dotted keys (such a table never does).
-/

namespace EchoProbe

namespace Toml

/-- How a table came to be. -/
inductive Origin
  /-- By its own heading. -/
  | heading
  /-- On the way to the heading of another table. -/
  | path
  /-- By dotted keys. -/
  | dotted
deriving DecidableEq

/-- What a name stands for in a table. -/
inductive Node
  /-- A finished value. -/
  | value (d : Document)
  /-- A table. -/
  | table (origin : Origin) (entries : List (String × Node))
  /-- A list of tables. -/
  | items (tables : List (List (String × Node)))

/-- The entries of a table, in order. -/
abbrev Entries := List (String × Node)

namespace Entries

/-- What a name stands for. -/
def find? (es : Entries) (name : String) : Option Node :=
  (List.find? (fun e => e.1 = name) es).map Prod.snd

/-- Changes what a name stands for. -/
def replace (es : Entries) (name : String) (n : Node) : Entries :=
  es.map fun e => if e.1 = name then (name, n) else e

/-- Adds a name. -/
def add (es : Entries) (name : String) (n : Node) : Entries := es ++ [(name, n)]

/-- Takes a name away. -/
def remove (es : Entries) (name : String) : Entries := es.filter fun e => e.1 ≠ name

end Entries

/-- Changes the table that a path leads to. The tables on the way that are missing are made; in a
list of tables the way leads through the last. A dotted key leads through no table that has a
heading of its own. -/
def update (dotted : Bool) (change : Origin → Entries → Option Entries) :
    List String → Origin → Entries → Option Entries
  | [], origin, es => change origin es
  | name :: path, _, es =>
    match es.find? name with
    | none => do
      let origin := if dotted then Origin.dotted else Origin.path
      let inner ← update dotted change path origin []
      return es.add name (.table origin inner)
    | some (.value _) => none
    | some (.table origin inner) =>
      if dotted ∧ origin = .heading then none
      else (update dotted change path origin inner).map fun inner =>
        es.replace name (.table origin inner)
    | some (.items tables) => do
      let inner ← update dotted change path .heading (tables.getLast?.getD [])
      return es.replace name (.items (tables.dropLast ++ [inner]))

/-- Gives a key a value; no key gets two, and a dotted key ends in a table made by dotted keys. -/
def assign (es : Entries) (key : List String) (d : Document) : Option Entries :=
  match key.getLast? with
  | none => none
  | some name =>
    let path := key.dropLast
    update true (fun origin inner =>
      if (origin == .dotted) == path.isEmpty || (inner.find? name).isSome then none
      else some (inner.add name (.value d))) path .heading es

mutual

/-- The document that a node stands for. -/
def Node.document : Node → Document
  | .value d => d
  | .table _ es => .record (entryDocuments es)
  | .items tables => .list (tableDocuments tables)

/-- The documents that the names of a table stand for. -/
def entryDocuments : List (String × Node) → List (String × Document)
  | [] => []
  | (name, n) :: es => (name, n.document) :: entryDocuments es

/-- The documents of some tables. -/
def tableDocuments : List (List (String × Node)) → List Document
  | [] => []
  | es :: tables => .record (entryDocuments es) :: tableDocuments tables

end

/-- A document of which some lines have been read. -/
structure Draft where
  /-- The tables that are finished for now. -/
  root : Entries
  /-- The table whose lines are being read. -/
  current : Entries
  /-- The key of its heading; nothing before the first heading. -/
  heading : List String
  /-- It is an item of a list of tables. -/
  isItem : Bool

namespace Draft

/-- Nothing has been read. -/
def empty : Draft := ⟨[], [], [], false⟩

/-- Puts the table whose lines were read into its place. -/
def close (t : Draft) : Option Entries :=
  match t.heading.getLast? with
  | none => some t.current
  | some name =>
    update false (fun _ es =>
      if t.isItem then
        match es.find? name with
        | some (.items tables) => some (es.replace name (.items (tables ++ [t.current])))
        | _ => none
      else some (es.add name (.table .heading t.current))) t.heading.dropLast .heading t.root

/-- Answers the heading of a table. It is new, or was on the way to other tables. -/
def openTable (t : Draft) (key : List String) : Option Draft := do
  let root ← t.close
  let name ← key.getLast?
  let parent := key.dropLast
  let current ← findIn root parent name
  let root ← update false (fun _ es => some (es.remove name)) parent .heading root
  return ⟨root, current, key, false⟩
where
  /-- The entries that the new table has already. -/
  findIn (root : Entries) (parent : List String) (name : String) : Option Entries :=
    match parent, root with
    | [], es =>
      match es.find? name with
      | none => some []
      | some (.table .path inner) => some inner
      | some _ => none
    | p :: parent, es =>
      match es.find? p with
      | none => some []
      | some (.value _) => none
      | some (.table _ inner) => findIn inner parent name
      | some (.items tables) => findIn (tables.getLast?.getD []) parent name

/-- Answers the heading of an item in a list of tables. -/
def openItem (t : Draft) (key : List String) : Option Draft := do
  let root ← t.close
  let name ← key.getLast?
  let root ← update false (fun _ es =>
    match es.find? name with
    | none => some (es.add name (.items []))
    | some (.items _) => some es
    | some _ => none) key.dropLast .heading root
  return ⟨root, [], key, true⟩

/-- Gives a key of the table whose lines are being read a value. -/
def assign (t : Draft) (key : List String) (d : Document) : Option Draft := do
  let current ← Toml.assign t.current key d
  return { t with current }

/-- The document, after its last line. -/
def document? (t : Draft) : Option Document := do
  let root ← t.close
  return .record (entryDocuments root)

end Draft

end Toml

end EchoProbe
