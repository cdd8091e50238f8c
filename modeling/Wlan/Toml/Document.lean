import Wlan.Toml.Syntax

/-!
# Documents

What the statements of a document amount to: one table. A header opens a section, the assignments
after it fill that section, and the finished section takes its place in the document. So the
document is put together section by section, and a section is looked at as a whole.

Most of what can go wrong here is defining a thing twice. A section may take over a table that
until then was only passed through, with all that is in it, but no other.
-/

set_option autoImplicit false

namespace Wlan.Toml

structure Section where
  /-- Whether the header announces an element of an array. -/
  isElement : Bool
  path : Path
  assignments : List (Path × Value)

/-- The assignments before the first header, and the sections. -/
def sections : List Statement → List (Path × Value) × List Section
  | [] => ([], [])
  | .assignment path v :: rest =>
    let (own, more) := sections rest
    ((path, v) :: own, more)
  | .header path :: rest =>
    let (own, more) := sections rest
    ([], ⟨false, path, own⟩ :: more)
  | .element path :: rest =>
    let (own, more) := sections rest
    ([], ⟨true, path, own⟩ :: more)

def assignAll (es : Entries) (assignments : List (Path × Value)) : Option Entries :=
  assignments.foldlM (fun es (path, v) => assign es path v) es

/-- Changes what stands at the end of a header's path. On its way the path makes the tables that
are missing, and goes into the last element of an array of tables. -/
def place (change : Option Value → Option Value) (key : String) :
    List String → Entries → Option Entries
  | [], es => do return es.set key (← change (es.lookup key))
  | k :: ks, es =>
    match es.lookup k with
    | none => do
      let inner ← place change key ks []
      return es ++ [(k, .table .passage inner)]
    -- A table in braces is complete as written.
    | some (.table .braces _) => none
    | some (.table origin inner) => do
      let inner ← place change key ks inner
      return es.set k (.table origin inner)
    | some (.array true elements) =>
      match elements.getLast? with
      | some (.table origin inner) => do
        let inner ← place change key ks inner
        return es.set k (.array true (elements.dropLast ++ [.table origin inner]))
      | _ => none
    | some _ => none

/-- What stands at a section's path once the section is there. -/
def Section.over (s : Section) (present : Option Value) : Option Value :=
  if s.isElement then do
    let element ← assignAll [] s.assignments
    match present with
    | none => return .array true [.table .header element]
    | some (.array true elements) => return .array true (elements ++ [.table .header element])
    | some _ => none
  else
    match present with
    | none => do return .table .header (← assignAll [] s.assignments)
    | some (.table .passage inner) => do return .table .header (← assignAll inner s.assignments)
    | some _ => none

def Section.addTo (es : Entries) (s : Section) : Option Entries :=
  place s.over s.path.last s.path.through es

def assemble (ss : List Statement) : Option Entries := do
  let (own, more) := sections ss
  more.foldlM Section.addTo (← assignAll [] own)

def parse? (text : String) : Option Entries := do
  assemble (← statements text)

end Wlan.Toml
