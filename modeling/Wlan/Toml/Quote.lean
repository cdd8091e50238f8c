import Wlan.Text.Numeral

/-!
# Quoting

How a string is written in TOML. The format has four forms, and the writer takes the plainest one
that can hold the string: double quotes, single quotes, and the two triple forms, in which line
feeds may stand. Where none of them can hold it unescaped, the double quotes come back with
escapes, tripled if there is a line feed.

A form is chosen from five facts about the string, `Traits`. The chosen form is not always the
only one possible, so the order of the checks below is part of the format.
-/

set_option autoImplicit false

namespace Wlan.Toml

/-- The longest run of `q` in the text, given the length of the run that has just been read. -/
def longestRunFrom (q : Char) (run : Nat) : List Char → Nat
  | [] => run
  | c :: rest => if c = q then longestRunFrom q (run + 1) rest else max run (longestRunFrom q 0 rest)

def longestRun (q : Char) (cs : List Char) : Nat := longestRunFrom q 0 cs

/-- A control character that cannot stand in a text unescaped. -/
def isControl (c : Char) : Bool :=
  (c.toNat < 0x20 && c ≠ '\t' && c ≠ '\n') || c.toNat = 0x7F

/-- What decides the form in which a string is written. -/
structure Traits where
  control : Bool
  backslash : Bool
  lineFeed : Bool
  /-- The longest run of single quotes. -/
  single : Nat
  /-- The longest run of double quotes. -/
  double : Nat

def Traits.of (cs : List Char) : Traits where
  control := cs.any isControl
  backslash := cs.contains '\\'
  lineFeed := cs.contains '\n'
  single := longestRun '\'' cs
  double := longestRun '"' cs

inductive Form
  | basic
  | literal
  | basicBlock
  | literalBlock
  deriving DecidableEq, Repr

def Traits.form (t : Traits) : Form :=
  if !t.control && !t.backslash && !t.lineFeed && t.double = 0 then .basic
  else if !t.control && !t.lineFeed && t.single = 0 then .literal
  else if !t.control && !t.backslash && t.double ≤ 2 then .basicBlock
  else if !t.control && t.single ≤ 2 then .literalBlock
  -- From here on something has to be escaped.
  else if t.lineFeed then .basicBlock
  else .basic

/-- A character between double quotes, quotes and line feeds apart. -/
def escapedControl (c : Char) : List Char :=
  if c = '\\' then ['\\', '\\']
  else if c = '\t' then ['\\', 't']
  else if c = '\x08' then ['\\', 'b']
  else if c = '\x0c' then ['\\', 'f']
  else if c = '\r' then ['\\', 'r']
  else if isControl c then '\\' :: 'u' :: Text.hex4 true c.toNat
  else [c]

def basicBody (cs : List Char) : List Char :=
  cs.flatMap fun c =>
    if c = '"' then ['\\', '"'] else if c = '\n' then ['\\', 'n'] else escapedControl c

/-- A text between triple double quotes, where `run` quotes have just been written. Every third
quote of a run is escaped, so that no three stand together. -/
def basicBlockBody (run : Nat) : List Char → List Char
  | [] => []
  | c :: rest =>
    if c = '"' then
      if run = 2 then '\\' :: '"' :: basicBlockBody 0 rest else '"' :: basicBlockBody (run + 1) rest
    else if c = '\n' then '\n' :: basicBlockBody 0 rest
    else escapedControl c ++ basicBlockBody 0 rest

/-- A string as it is written in the given form. A triple form that holds a line feed begins with
one more, which the reader drops. -/
def Form.write (f : Form) (lineFeed : Bool) (cs : List Char) : List Char :=
  let opening := if lineFeed then ['\n'] else []
  match f with
  | basic => '"' :: basicBody cs ++ ['"']
  | literal => '\'' :: cs ++ ['\'']
  | basicBlock => ['"', '"', '"'] ++ opening ++ basicBlockBody 0 cs ++ ['"', '"', '"']
  | literalBlock => ['\'', '\'', '\''] ++ opening ++ cs ++ ['\'', '\'', '\'']

def quote (cs : List Char) : List Char :=
  let t := Traits.of cs
  t.form.write t.lineFeed cs

end Wlan.Toml
