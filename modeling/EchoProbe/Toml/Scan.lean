/-!
# Reading characters

A `Scan` reads something off the front of a list of characters and leaves the rest, or fails.

* `blanks` passes over spaces and tabs, `skipBlank` over line ends and comments as well;
* `endOfLine?` passes over the rest of a line that holds nothing but blanks and a comment;
* `digitRun` reads digits, between which single underscores may stand.
-/

namespace EchoProbe

namespace Toml

/-- Reads something and leaves the rest, or fails. -/
abbrev Scan (α : Type) := List Char → Option (α × List Char)

/-- A space or a tab. -/
def isBlank (c : Char) : Bool := c = ' ' || c = '\t'

/-- A character that may stand in a comment or a text: no control but the tab. -/
def isPlain (c : Char) : Bool := c = '\t' || (0x20 ≤ c.toNat && c.toNat ≠ 0x7F)

/-- Passes over spaces and tabs. -/
def blanks (cs : List Char) : List Char := cs.dropWhile isBlank

/-- Passes over the end of a line. -/
def lineEnd? : List Char → Option (List Char)
  | '\n' :: rest => some rest
  | '\r' :: '\n' :: rest => some rest
  | _ => none

/-- Passes over blanks, line ends and comments. A comment lasts to the end of its line, which must
be there. -/
def skipBlank (inComment : Bool) : List Char → Option (List Char)
  | [] => if inComment then none else some []
  | c :: cs =>
    if c = '\n' then skipBlank false cs
    else if c = '\r' then if cs.head? = some '\n' then skipBlank false cs else none
    else if inComment then if isPlain c then skipBlank true cs else none
    else if isBlank c then skipBlank false cs
    else if c = '#' then skipBlank true cs
    else some (c :: cs)

/-- Passes over blanks, a comment and the end of the line or of the text. -/
def endOfLine? (cs : List Char) : Option (List Char) :=
  let rest := match blanks cs with
    | '#' :: rest => rest.dropWhile isPlain
    | rest => rest
  if rest.isEmpty then some [] else lineEnd? rest

/-- Passes over a fixed text. -/
def literal? : List Char → List Char → Option (List Char)
  | [], cs => some cs
  | w :: ws, c :: cs => if w = c then literal? ws cs else none
  | _ :: _, [] => none

/-- Reads digits after another digit; an underscore must stand between two digits. -/
def moreDigits (isDigit : Char → Bool) : Scan (List Char)
  | [] => some ([], [])
  | c :: cs =>
    if isDigit c then (moreDigits isDigit cs).map fun (ds, rest) => (c :: ds, rest)
    else if c = '_' then
      if (cs.head?.map isDigit).getD false then moreDigits isDigit cs else none
    else some ([], c :: cs)

/-- Reads one or more digits, between which single underscores may stand. -/
def digitRun (isDigit : Char → Bool) : Scan (List Char)
  | [] => none
  | c :: cs =>
    if isDigit c then (moreDigits isDigit cs).map fun (ds, rest) => (c :: ds, rest) else none

end Toml

end EchoProbe
