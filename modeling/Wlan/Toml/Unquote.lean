import Wlan.Text.Numeral

/-!
# Unquoting

Reading the four forms of a TOML string. Each reader takes the text after the opening quotes and
gives the string and what follows the closing quotes, or nothing if the text is not a string of
that form. All of them are one recursion over the characters.

In the triple forms the end takes some care. Up to two quotes may stand right before the closing
three, so that a run of three, four or five ends the string and its first quotes belong to it; a
shorter run is part of the text. And a backslash at the end of a line joins it to the next one:
what follows, up to the next character that is neither blank nor line end, is dropped.
-/

set_option autoImplicit false

namespace Wlan.Toml

/-- Blanks between the parts of a line. -/
def isGap (c : Char) : Bool := c = ' ' || c = '\t'

/-- What may stand in a comment or a literal string: no control character but the tab. -/
def isPrintable (c : Char) : Bool := c = '\t' || (0x20 ≤ c.toNat && c.toNat ≠ 0x7F)

/-- The character with this number, if it is one. -/
def scalar? (n : Nat) : Option Char :=
  if n < 0xD800 ∨ (0xDFFF < n ∧ n < 0x110000) then some (Char.ofNat n) else none

/-- The character that hexadecimal digits name. -/
def named? (digits : List Char) : Option Char :=
  if digits.all (Text.isDigitOf 16) then scalar? (Text.ofDigits 16 digits) else none

/-- The character that a single letter after a backslash stands for. -/
def shortEscape? : Char → Option Char
  | 'b' => some '\x08'
  | 't' => some '\t'
  | 'n' => some '\n'
  | 'f' => some '\x0c'
  | 'r' => some '\r'
  | '"' => some '"'
  | '\\' => some '\\'
  | _ => none

/-- Puts a character in front of what a reader has read. -/
def withFirst (c : Char) (read : Option (List Char × List Char)) : Option (List Char × List Char) :=
  read.map fun (cs, rest) => (c :: cs, rest)

def readBasic : List Char → Option (List Char × List Char)
  | '\\' :: 'u' :: a :: b :: c :: d :: rest => do
    withFirst (← named? [a, b, c, d]) (readBasic rest)
  | '\\' :: 'U' :: a :: b :: c :: d :: e :: f :: g :: h :: rest => do
    withFirst (← named? [a, b, c, d, e, f, g, h]) (readBasic rest)
  | '\\' :: c :: rest => do withFirst (← shortEscape? c) (readBasic rest)
  | '"' :: rest => some ([], rest)
  | c :: rest => if isPrintable c && c ≠ '\\' then withFirst c (readBasic rest) else none
  | [] => none

def readLiteral : List Char → Option (List Char × List Char)
  | '\'' :: rest => some ([], rest)
  | c :: rest => if isPrintable c then withFirst c (readLiteral rest) else none
  | [] => none

/-- What a reader of a block is doing. -/
inductive Joining
  | no
  /-- After a backslash and blanks, where the line has to end. -/
  | line
  /-- After such an end of line, where blanks and line ends are dropped. -/
  | next
  deriving DecidableEq, Repr

def readBasicBlock : Joining → List Char → Option (List Char × List Char)
  | .line, '\r' :: '\n' :: rest => readBasicBlock .next rest
  | .line, '\n' :: rest => readBasicBlock .next rest
  | .line, c :: rest => if isGap c then readBasicBlock .line rest else none
  | .next, '\r' :: '\n' :: rest => readBasicBlock .next rest
  | .next, '\n' :: rest => readBasicBlock .next rest
  | .next, ' ' :: rest => readBasicBlock .next rest
  | .next, '\t' :: rest => readBasicBlock .next rest
  -- From here on it no longer matters where the reader stood, and the longer runs come first.
  | _, '"' :: '"' :: '"' :: '"' :: '"' :: rest => some (['"', '"'], rest)
  | _, '"' :: '"' :: '"' :: '"' :: rest => some (['"'], rest)
  | _, '"' :: '"' :: '"' :: rest => some ([], rest)
  | _, '"' :: rest => withFirst '"' (readBasicBlock .no rest)
  | _, '\\' :: 'u' :: a :: b :: c :: d :: rest => do
    withFirst (← named? [a, b, c, d]) (readBasicBlock .no rest)
  | _, '\\' :: 'U' :: a :: b :: c :: d :: e :: f :: g :: h :: rest => do
    withFirst (← named? [a, b, c, d, e, f, g, h]) (readBasicBlock .no rest)
  | _, '\\' :: '\r' :: '\n' :: rest => readBasicBlock .next rest
  | _, '\\' :: '\n' :: rest => readBasicBlock .next rest
  | _, '\\' :: c :: rest =>
    if isGap c then readBasicBlock .line rest
    else do withFirst (← shortEscape? c) (readBasicBlock .no rest)
  -- Either line end is read as a line feed.
  | _, '\r' :: '\n' :: rest => withFirst '\n' (readBasicBlock .no rest)
  | _, '\n' :: rest => withFirst '\n' (readBasicBlock .no rest)
  | _, c :: rest => if isPrintable c && c ≠ '\\' then withFirst c (readBasicBlock .no rest) else none
  | _, [] => none

def readLiteralBlock : List Char → Option (List Char × List Char)
  | '\'' :: '\'' :: '\'' :: '\'' :: '\'' :: rest => some (['\'', '\''], rest)
  | '\'' :: '\'' :: '\'' :: '\'' :: rest => some (['\''], rest)
  | '\'' :: '\'' :: '\'' :: rest => some ([], rest)
  | '\r' :: '\n' :: rest => withFirst '\n' (readLiteralBlock rest)
  | '\n' :: rest => withFirst '\n' (readLiteralBlock rest)
  | c :: rest => if isPrintable c then withFirst c (readLiteralBlock rest) else none
  | [] => none

/-- Drops a line end directly after the opening of a block. -/
def dropLineEnd : List Char → List Char
  | '\r' :: '\n' :: rest => rest
  | '\n' :: rest => rest
  | cs => cs

/-- Reads a string in whichever form its opening quotes announce. -/
def unquote : List Char → Option (List Char × List Char)
  | '"' :: '"' :: '"' :: rest => readBasicBlock .no (dropLineEnd rest)
  | '"' :: rest => readBasic rest
  | '\'' :: '\'' :: '\'' :: rest => readLiteralBlock (dropLineEnd rest)
  | '\'' :: rest => readLiteral rest
  | _ => none

end Wlan.Toml
