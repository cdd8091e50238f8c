import Wlan.Text.Lines

/-!
# Terse lines

In its terse form the tool writes the fields of a row with colons between them, and puts a
backslash in front of every colon and backslash that belongs to a field. `split` reads such a row
back. It takes whatever follows a backslash as it stands, so that it reads every line there is; a
backslash with nothing after it is dropped.
-/

set_option autoImplicit false

namespace Wlan.NetworkManager.Terse

def split : List Char → List (List Char)
  | [] => [[]]
  | ['\\'] => [[]]
  | '\\' :: c :: rest => Text.consFirst c (split rest)
  | ':' :: rest => [] :: split rest
  | c :: rest => Text.consFirst c (split rest)

def escape : List Char → List Char
  | [] => []
  | c :: rest => if c = ':' ∨ c = '\\' then '\\' :: c :: escape rest else c :: escape rest

def row (fields : List (List Char)) : List Char :=
  [':'].intercalate (fields.map escape)

theorem split_ne_nil (cs : List Char) : split cs ≠ [] := by
  fun_cases split cs <;> simp

end Wlan.NetworkManager.Terse
