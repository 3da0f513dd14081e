import EchoProbe.Toml.Scalar
import EchoProbe.Toml.Table

/-!
# TOML

`Toml.parse?` reads a text in version 1.0 of the TOML notation.

* `value?` reads a value, `pair?` a key and its value;
* `line?` reads a line that is not blank, and adds what it says to a draft of the document.
-/

namespace EchoProbe

namespace Toml

/-- Reads the items of a list, after its bracket and up to the closing one. The last may have a
comma after it. -/
def listItems (value? : Scan Document) : (fuel : Nat) → Scan (List Document)
  | 0, _ => none
  | fuel + 1, cs => do
    match ← skipBlank false cs with
    | ']' :: rest => return ([], rest)
    | cs =>
      let (d, rest) ← value? cs
      match ← skipBlank false rest with
      | ',' :: rest =>
        let (ds, rest) ← listItems value? fuel rest
        return (d :: ds, rest)
      | ']' :: rest => return ([d], rest)
      | _ => none

/-- Reads a key and its value, and the blanks around them. -/
def pair? (value? : Scan Document) (cs : List Char) :
    Option ((List String × Document) × List Char) := do
  let (key, rest) ← key? cs
  let rest ← literal? ['='] rest
  let (d, rest) ← value? (blanks rest)
  return ((key, d), blanks rest)

/-- Reads the pairs of a table within a line, after some others and up to its closing brace. -/
def inlinePairs (value? : Scan Document) : (fuel : Nat) → Entries → Scan Entries
  | 0, _, _ => none
  | fuel + 1, es, cs => do
    let ((key, d), rest) ← pair? value? cs
    let es ← assign es key d
    match rest with
    | ',' :: rest => inlinePairs value? fuel es rest
    | '\x7d' :: rest => return (es, rest)
    | _ => none

/-- Reads a table within a line, after its opening brace. -/
def inlineTable (value? : Scan Document) (cs : List Char) : Option (Document × List Char) :=
  match blanks cs with
  | '\x7d' :: rest => some (.record [], rest)
  | cs => (inlinePairs value? cs.length [] cs).map fun (es, rest) =>
    (.record (entryDocuments es), rest)

/-- Reads a value that holds others to the given depth at most. -/
def value? : (depth : Nat) → Scan Document
  | 0, cs =>
    match cs with
    | '[' :: _ => none
    | '\x7b' :: _ => none
    | cs => scalar? cs
  | depth + 1, cs =>
    match cs with
    | '[' :: rest =>
      (listItems (value? depth) (rest.length + 1) rest).map fun (ds, rest) => (.list ds, rest)
    | '\x7b' :: rest => inlineTable (value? depth) rest
    | cs => scalar? cs

/-- Reads a heading up to its closing brackets, and the rest of its line. -/
def heading? (closing : List Char) (cs : List Char) : Option (List String × List Char) := do
  let (key, rest) ← key? cs
  let rest ← literal? closing rest
  return (key, ← endOfLine? rest)

/-- Reads a line that is not blank. -/
def line? (t : Draft) : Scan Draft
  | '[' :: '[' :: cs => do
    let (key, rest) ← heading? [']', ']'] cs
    return (← t.openItem key, rest)
  | '[' :: cs => do
    let (key, rest) ← heading? [']'] cs
    return (← t.openTable key, rest)
  | cs => do
    let ((key, d), rest) ← pair? (value? depthLimit) cs
    return (← t.assign key d, ← endOfLine? rest)

/-- Reads lines to the end of the text. -/
def lines? : (fuel : Nat) → Draft → List Char → Option Draft
  | 0, _, _ => none
  | fuel + 1, t, cs =>
    match blanks cs with
    | [] => some t
    | c :: cs =>
      if c = '#' ∨ c = '\n' ∨ c = '\r' then (endOfLine? (c :: cs)).bind (lines? fuel t)
      else do
        let (t, rest) ← line? t (c :: cs)
        lines? fuel t rest

/-- Reads a text. A mark of the byte order in front of it is passed over. -/
def parse? (s : String) : Option Document := do
  let cs := match s.toList with
    | '\ufeff' :: cs => cs
    | cs => cs
  let t ← lines? (cs.length + 1) .empty cs
  t.document?

end Toml

end EchoProbe
