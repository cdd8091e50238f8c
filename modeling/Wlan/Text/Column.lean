/-!
# Columns

Tables are printed in columns whose width counts characters. A cell longer than its column is
printed whole, so a width is a lower bound and never cuts.
-/

set_option autoImplicit false

namespace Wlan.Text

/-- The text followed by blanks up to `width` characters. -/
def padRight (width : Nat) (s : String) : String :=
  s ++ String.ofList (List.replicate (width - s.length) ' ')

/-- The text after blanks up to `width` characters. -/
def padLeft (width : Nat) (s : String) : String :=
  String.ofList (List.replicate (width - s.length) ' ') ++ s

def rule (width : Nat) : String :=
  String.ofList (List.replicate width '-')

/-- The rows of a table, each ended by a line feed. -/
def printed (rows : List String) : String :=
  String.join (rows.map fun row => row ++ "\n")

end Wlan.Text
