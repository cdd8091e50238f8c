/-!
# Lines and fields

The tool answers in lines, and its keys and values are separated by single characters. Reading is
stated on lists of characters, where every function here is one structural recursion.

A line ends at a line feed. A carriage return directly before that line feed belongs to the ending
and not to the line, whereas one at the very end of the text, where no line feed follows, is kept.
-/

set_option autoImplicit false

namespace Wlan.Text

/-- Puts a character in front of the first of some stretches, opening one if there is none. -/
def consFirst (c : Char) : List (List Char) → List (List Char)
  | [] => [[c]]
  | first :: more => (c :: first) :: more

/-- The lines of a text; a final line feed opens no further line. -/
def lines : List Char → List (List Char)
  | [] => []
  | '\n' :: rest => [] :: lines rest
  | '\r' :: '\n' :: rest => [] :: lines rest
  | c :: rest => consFirst c (lines rest)

/-- What stands before the first `sep` and what stands after it, if there is one. -/
def splitOnce (sep : Char) : List Char → Option (List Char × List Char)
  | [] => none
  | c :: rest =>
    if c = sep then some ([], rest)
    else (splitOnce sep rest).map fun (before, after) => (c :: before, after)

/-- The parts between the separators: one more than there are separators. -/
def parts (sep : Char) : List Char → List (List Char)
  | [] => [[]]
  | c :: rest =>
    if c = sep then [] :: parts sep rest else consFirst c (parts sep rest)

/-- Whether `needle` stands somewhere in the text as one stretch. -/
def occurs (needle : List Char) : List Char → Bool
  | [] => needle.isEmpty
  | c :: rest => needle.isPrefixOf (c :: rest) || occurs needle rest

@[simp] theorem lines_nil : lines [] = [] := rfl

@[simp] theorem consFirst_ne_nil (c : Char) (stretches : List (List Char)) :
    consFirst c stretches ≠ [] := by
  cases stretches <;> simp [consFirst]

theorem parts_ne_nil (sep : Char) (cs : List Char) : parts sep cs ≠ [] := by
  cases cs with
  | nil => simp [parts]
  | cons c rest => unfold parts; split <;> simp

/-- Finding a stretch is the relation of being an infix, decided. -/
theorem occurs_iff {needle cs : List Char} : occurs needle cs = true ↔ needle <:+: cs := by
  induction cs with
  | nil => simp [occurs]
  | cons c rest ih =>
    simp only [occurs, Bool.or_eq_true, List.isPrefixOf_iff_prefix, ih, List.infix_cons_iff]

end Wlan.Text
