import Wlan.Text.Numeral

/-!
# Pretty JSON

Listings can be printed as JSON: one field a line, two blanks of indentation a level, an empty
list as `[]`. Only records of scalars and lists of such records are ever printed, and this module
holds no more than that, so that printing needs no recursion over values.
-/

set_option autoImplicit false

namespace Wlan.Json

inductive Scalar
  | null
  | number (n : Nat)
  | text (s : String)

/-- A record: its fields in the order in which they are printed. -/
abbrev Record := List (String × Scalar)

/-- How one character stands inside quotes. Only the quote, the backslash and the control
characters below U+0020 are escaped; U+007F is not. -/
def escaped (c : Char) : List Char :=
  if c = '"' then ['\\', '"']
  else if c = '\\' then ['\\', '\\']
  else if c = '\n' then ['\\', 'n']
  else if c = '\r' then ['\\', 'r']
  else if c = '\t' then ['\\', 't']
  else if c = '\x08' then ['\\', 'b']
  else if c = '\x0c' then ['\\', 'f']
  else if c.toNat < 0x20 then '\\' :: 'u' :: Text.hex4 false c.toNat
  else [c]

def quoted (s : String) : String :=
  "\"" ++ String.ofList (s.toList.flatMap escaped) ++ "\""

def Scalar.render : Scalar → String
  | null => "null"
  | number n => toString n
  | text s => quoted s

/-- A record whose closing brace stands at the indentation `indent`. -/
def renderRecord (indent : String) (fields : Record) : String :=
  if fields.isEmpty then "\x7b\x7d"
  else
    "\x7b\n" ++ ",\n".intercalate
      (fields.map fun (name, value) => indent ++ "  " ++ quoted name ++ ": " ++ value.render)
    ++ "\n" ++ indent ++ "\x7d"

def renderList (records : List Record) : String :=
  if records.isEmpty then "[]"
  else "[\n" ++ ",\n".intercalate (records.map fun r => "  " ++ renderRecord "  " r) ++ "\n]"

/-- A field that may be absent, as text. -/
def Scalar.ofText? : Option String → Scalar
  | some s => .text s
  | none => .null

end Wlan.Json
