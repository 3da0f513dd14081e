import EchoProbe.Text.Numeral
import EchoProbe.Toml.Scan

/-!
# Texts and keys

* `text?` reads a text in any of its four forms: between double quotes with escapes, between
  single quotes as it stands, and either form over several lines between three quotes;
* `key?` reads a key, the names of which are separated by dots.
-/

namespace EchoProbe

namespace Toml

/-- Puts characters in front of what was read. -/
def prepend (cs : List Char) : List Char × List Char → List Char × List Char
  | (read, rest) => (cs ++ read, rest)

/-- The character with a code, if there is one. -/
def charOf? (n : Nat) : Option Char := if n.isValidChar then some (Char.ofNat n) else none

/-- The character that an escape stands for, given what follows the backslash, and the number of
characters that the escape takes. -/
def escape? : List Char → Option (Char × Nat)
  | [] => none
  | c :: cs =>
    match c with
    | 'b' => some ('\x08', 1)
    | 't' => some ('\t', 1)
    | 'n' => some ('\n', 1)
    | 'f' => some ('\x0c', 1)
    | 'r' => some ('\r', 1)
    | '"' => some ('"', 1)
    | '\\' => some ('\\', 1)
    | 'u' => coded? 4 cs
    | 'U' => coded? 8 cs
    | _ => none
where
  coded? (digits : Nat) (cs : List Char) : Option (Char × Nat) :=
    if cs.length < digits then none
    else ((Numeral.ofDigits? 16 (cs.take digits)).bind charOf?).map (·, digits + 1)

/-- The rest of a line text between double quotes. -/
def basicBody (cs : List Char) : Option (List Char × List Char) :=
  match cs with
  | [] => none
  | c :: cs =>
    if c = '"' then some ([], cs)
    else if c = '\\' then
      match escape? cs with
      | some (x, n) => (basicBody (cs.drop n)).map (prepend [x])
      | none => none
    else if isPlain c then (basicBody cs).map (prepend [c])
    else none
termination_by cs.length
decreasing_by all_goals simp only [List.length_drop, List.length_cons]; omega

/-- The rest of a line text between single quotes. -/
def literalBody : List Char → Option (List Char × List Char)
  | [] => none
  | c :: cs =>
    if c = '\x27' then some ([], cs)
    else if isPlain c then (literalBody cs).map (prepend [c])
    else none

/-- Passes over blanks and line ends. -/
def skipLines : List Char → List Char
  | [] => []
  | c :: cs =>
    if isBlank c || c = '\n' || (c = '\r' && cs.head? = some '\n') then skipLines cs
    else c :: cs

/-- What follows a backslash at the end of a line, after all blanks and line ends. -/
def continued? (cs : List Char) : Option (List Char) :=
  ((lineEnd? (blanks cs)).map skipLines).filter fun rest => rest.length < cs.length

/-- The rest of a text over several lines. Up to two quotes may stand anywhere in it, also right
before the three that close it. -/
def linesBody (quote : Char) (cs : List Char) : Option (List Char × List Char) :=
  match cs with
  | [] => none
  | c :: cs =>
    if c = quote then
      let more := (cs.takeWhile (· = quote)).length
      if more < 2 then (linesBody quote (cs.drop more)).map (prepend (List.replicate (more + 1) c))
      else
        let extra := min (more - 2) 2
        some (List.replicate extra c, cs.drop (extra + 2))
    else if c = '\n' then (linesBody quote cs).map (prepend ['\n'])
    else if c = '\r' then if cs.head? = some '\n' then linesBody quote cs else none
    else if c = '\\' ∧ quote = '"' then
      match h : continued? cs with
      | some rest =>
        have : rest.length < cs.length := by
          simpa using (Option.filter_eq_some_iff.1 h).2
        linesBody quote rest
      | none =>
        match escape? cs with
        | some (x, n) => (linesBody quote (cs.drop n)).map (prepend [x])
        | none => none
    else if isPlain c then (linesBody quote cs).map (prepend [c])
    else none
termination_by cs.length
decreasing_by all_goals simp only [List.length_drop, List.length_cons]; omega

/-- A text over several lines, after the opening quotes; a line end right after them is left
out. -/
def afterOpening (quote : Char) (cs : List Char) : Option (List Char × List Char) :=
  linesBody quote ((lineEnd? cs).getD cs)

/-- Reads a text within one line. -/
def lineText? : Scan String
  | '"' :: cs => (basicBody cs).map fun (s, rest) => (String.ofList s, rest)
  | '\x27' :: cs => (literalBody cs).map fun (s, rest) => (String.ofList s, rest)
  | _ => none

/-- Reads a text. -/
def text? : Scan String
  | '"' :: '"' :: '"' :: cs => (afterOpening '"' cs).map fun (s, rest) => (String.ofList s, rest)
  | '\x27' :: '\x27' :: '\x27' :: cs =>
    (afterOpening '\x27' cs).map fun (s, rest) => (String.ofList s, rest)
  | cs => lineText? cs

/-- A character that may stand in a name without quotes. -/
def isBare (c : Char) : Bool := c.isAlphanum || c = '-' || c = '_'

/-- Reads one name of a key. -/
def name? (cs : List Char) : Option (String × List Char) :=
  match lineText? cs with
  | some r => some r
  | none =>
    let bare := cs.takeWhile isBare
    if bare.isEmpty then none else some (String.ofList bare, cs.dropWhile isBare)

/-- Reads names separated by dots, `n` of them at most. -/
def names? : (n : Nat) → Scan (List String)
  | 0, _ => none
  | n + 1, cs => do
    let (name, rest) ← name? (blanks cs)
    match blanks rest with
    | '.' :: rest =>
      let (more, rest) ← names? n rest
      return (name :: more, rest)
    | rest => return ([name], rest)

/-- The greatest depth of keys and of values in one another. -/
def depthLimit : Nat := 79

/-- Reads a key and the blanks around it. -/
def key? : Scan (List String) := names? depthLimit

end Toml

end EchoProbe
