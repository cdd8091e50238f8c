/-!
# TOML values

What a TOML document holds. A table remembers how it came to be, because that decides who may add
to it: one written in braces is closed, one with a header of its own has that one header, and one
that exists only because a longer path goes through it may still get what it lacks. An array
remembers whether it was built up by headers, for the same reason. Whoever only reads a document
can ignore both marks.

Numbers with a fraction and points in time are kept as they were written, since nothing asks for
their value.
-/

set_option autoImplicit false

namespace Wlan.Toml

/-- How a table came to be. -/
inductive Origin
  /-- Written in braces. -/
  | braces
  /-- Under a header of its own, or the document itself. -/
  | header
  /-- Passed through by the path of a header. -/
  | passage
  /-- Passed through by the path of an assignment. -/
  | dotted
  deriving DecidableEq, Repr

inductive Value
  | text (s : String)
  | integer (n : Int)
  | boolean (b : Bool)
  | fraction (written : String)
  | moment (written : String)
  /-- An array, and whether it was built up by headers. -/
  | array (headed : Bool) (elements : List Value)
  | table (origin : Origin) (entries : List (String × Value))

/-- The entries of a table, in the order in which they came. -/
abbrev Entries := List (String × Value)

namespace Entries

/-- Adds an entry; a key that is there already is not given a second value. -/
def add? (es : Entries) (key : String) (v : Value) : Option Entries :=
  match es.lookup key with
  | some _ => none
  | none => some (es ++ [(key, v)])

/-- Gives a key its value, in place if it is there already. -/
def set (es : Entries) (key : String) (v : Value) : Entries :=
  match es.lookup key with
  | some _ => es.map fun (k, old) => (k, if k == key then v else old)
  | none => es ++ [(key, v)]

end Entries

end Wlan.Toml
