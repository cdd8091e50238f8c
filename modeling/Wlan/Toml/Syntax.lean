import Wlan.Toml.Plain

/-!
# The lines of a document

Reading the text of a document into statements: headers, headers of array elements, and
assignments. What the statements amount to together is a later question, and no statement needs
the ones before it to be read.

A reader takes the text that is left and gives what it read and what is left after it. Values nest
in arrays and braces; `value` recurses on how deep they may still nest, since the format's readers
agree on a limit, and loops over elements, keys and lines recurse on a bound that the length of
the text supplies.
-/

set_option autoImplicit false

namespace Wlan.Toml

/-- A path of keys: those passed through, and the last one. -/
structure Path where
  through : List String
  last : String
  deriving DecidableEq, Repr

inductive Statement
  | header (path : Path)
  | element (path : Path)
  | assignment (path : Path) (value : Value)

/-- Values nest less deep than this, and paths are shorter. -/
def nestingLimit : Nat := 80

/-! ## Blanks and line ends -/

def skipGap (cs : List Char) : List Char := cs.dropWhile isGap

/-- Takes a line end, or the end of the text, after a comment if there is one. -/
def lineEnd? (cs : List Char) : Option (List Char) :=
  let after := match skipGap cs with
    | '#' :: rest => rest.dropWhile isPrintable
    | rest => rest
  match after with
  | [] => some []
  | '\n' :: rest => some rest
  | '\r' :: '\n' :: rest => some rest
  | _ => none

/-- Skips what may stand between the elements of an array: blanks, line ends and comments, each
of which ends with its line. -/
def skipBetween (comment : Bool) : List Char → Option (List Char)
  | [] => if comment then none else some []
  | '\r' :: '\n' :: rest => skipBetween false rest
  | '\n' :: rest => skipBetween false rest
  | c :: rest =>
    if comment then if isPrintable c then skipBetween true rest else none
    else if isGap c then skipBetween false rest
    else if c = '#' then skipBetween true rest
    else some (c :: rest)

/-! ## Keys -/

/-- What may stand in a key without quotes. -/
def isBare (c : Char) : Bool := c.isAlphanum || c = '-' || c = '_'

/-- Reads one key. Keys are quoted on one line only. -/
def readKey : List Char → Option (String × List Char)
  | '"' :: rest => (readBasic rest).map fun (k, rest) => (String.ofList k, rest)
  | '\'' :: rest => (readLiteral rest).map fun (k, rest) => (String.ofList k, rest)
  | cs =>
    match cs.takeWhile isBare with
    | [] => none
    | k => some (String.ofList k, cs.dropWhile isBare)

/-- Reads keys with points between them, fewer than `limit`, and the blanks around them. -/
def readPathBelow : Nat → List Char → Option (Path × List Char)
  | 0, _ => none
  | limit + 1, cs => do
    let (key, cs) ← readKey (skipGap cs)
    match skipGap cs with
    | '.' :: rest =>
      let (path, rest) ← readPathBelow limit rest
      return ({ path with through := key :: path.through }, rest)
    | rest => return (⟨[], key⟩, rest)

def readPath (cs : List Char) : Option (Path × List Char) := readPathBelow (nestingLimit - 1) cs

/-! ## Values -/

/-- A path that leads into a table written in braces, or adds to a table on its way. -/
def graft (key : String) (v : Value) : List String → Origin → Entries → Option Entries
  | [], origin, es => if origin = .dotted then es.add? key v else none
  | k :: ks, _, es =>
    match es.lookup k with
    | none => do
      let inner ← graft key v ks .dotted []
      return es ++ [(k, .table .dotted inner)]
    | some (.table .dotted inner) => do
      let inner ← graft key v ks .dotted inner
      return es.set k (.table .dotted inner)
    | some (.table .passage inner) => do
      let inner ← graft key v ks .passage inner
      return es.set k (.table .passage inner)
    -- The last element keeps its own origin, which decides whether it may still grow.
    | some (.array true elements) =>
      match elements.getLast? with
      | some (.table origin inner) => do
        let inner ← graft key v ks origin inner
        return es.set k (.array true (elements.dropLast ++ [.table origin inner]))
      | _ => none
    | some _ => none

/-- Assigns a value within a table. Tables on the way of a path with points are made if they are
missing, and only such a table can be added to in this way. -/
def assign (es : Entries) (path : Path) (v : Value) : Option Entries :=
  match path.through with
  | [] => es.add? path.last v
  | k :: ks => graft path.last v (k :: ks) .header es

/-- Reads the elements of an array up to its closing bracket. -/
def readElements (value : List Char → Option (Value × List Char)) :
    Nat → List Char → Option (List Value × List Char)
  | 0, _ => none
  | bound + 1, cs => do
    match ← skipBetween false cs with
    | ']' :: rest => return ([], rest)
    | cs =>
      let (v, cs) ← value cs
      match ← skipBetween false cs with
      | ',' :: rest =>
        let (vs, rest) ← readElements value bound rest
        return (v :: vs, rest)
      | ']' :: rest => return ([v], rest)
      | _ => none

/-- Reads a path, an equals sign and a value, and the blanks around them. -/
def readPair (value : List Char → Option (Value × List Char)) (cs : List Char) :
    Option ((Path × Value) × List Char) := do
  let (path, cs) ← readPath cs
  match cs with
  | '=' :: rest =>
    let (v, rest) ← value (skipGap rest)
    return ((path, v), skipGap rest)
  | _ => none

/-- Reads the pairs of a table in braces up to its closing brace; a comma has to be followed by a
pair. -/
def readPairs (value : List Char → Option (Value × List Char)) :
    Nat → List Char → Option (List (Path × Value) × List Char)
  | 0, _ => none
  | bound + 1, cs => do
    let (pair, cs) ← readPair value cs
    match cs with
    | ',' :: rest =>
      let (pairs, rest) ← readPairs value bound rest
      return (pair :: pairs, rest)
    | '}' :: rest => return ([pair], rest)
    | _ => none

/-- Reads a value in which arrays and braces nest less deep than `depth`. -/
def readValueBelow : Nat → List Char → Option (Value × List Char)
  | 0, _ => none
  | depth + 1, cs =>
    match cs with
    | '"' :: _ => (unquote cs).map fun (s, rest) => (.text (String.ofList s), rest)
    | '\'' :: _ => (unquote cs).map fun (s, rest) => (.text (String.ofList s), rest)
    | '[' :: rest => do
      let (vs, rest) ← readElements (readValueBelow depth) (rest.length + 1) rest
      -- An array counts towards the limit even if nothing is nested in it.
      guard (depth ≠ 0)
      return (.array false vs, rest)
    | '{' :: rest => do
      guard (depth ≠ 0)
      match skipGap rest with
      | '}' :: rest => return (.table .braces [], rest)
      | rest =>
        let (pairs, rest) ← readPairs (readValueBelow depth) (rest.length + 1) rest
        let es ← pairs.foldlM (fun es (path, v) => assign es path v) []
        return (.table .braces es, rest)
    | _ => readPlain cs

def readValue (cs : List Char) : Option (Value × List Char) := readValueBelow nestingLimit cs

/-! ## Statements -/

/-- Reads a header, after its first bracket. -/
def readHeader (cs : List Char) : Option (Statement × List Char) :=
  match cs with
  | '[' :: cs => do
    let (path, cs) ← readPath cs
    match cs with
    | ']' :: ']' :: rest => return (.element path, ← lineEnd? rest)
    | _ => none
  | _ => do
    let (path, cs) ← readPath cs
    match cs with
    | ']' :: rest => return (.header path, ← lineEnd? rest)
    | _ => none

/-- Reads the statements of a text of fewer than `bound` characters. -/
def readStatements : Nat → List Char → Option (List Statement)
  | 0, _ => none
  | bound + 1, cs =>
    match skipGap cs with
    | [] => some []
    | '\n' :: rest => readStatements bound rest
    | '\r' :: '\n' :: rest => readStatements bound rest
    | '#' :: rest => do readStatements bound (← lineEnd? ('#' :: rest))
    | '[' :: rest => do
      let (s, rest) ← readHeader rest
      return s :: (← readStatements bound rest)
    | rest => do
      let ((path, v), rest) ← readPair readValue rest
      let rest ← lineEnd? rest
      return .assignment path v :: (← readStatements bound rest)

/-- The statements of a document. A byte order mark in front is no part of it. -/
def statements (text : String) : Option (List Statement) :=
  let cs := match text.toList with
    | '\uFEFF' :: rest => rest
    | cs => cs
  readStatements (cs.length + 1) cs

end Wlan.Toml
